import EntityQuery.Proofs.Criteria
import EntityQuery.Proofs.Reading
import EntityQuery.Proofs.Tokens

/-!
# Query text in free spacing

The grammar of conditions over tokens: between them stands any white space, and next to brackets none is needed
(`ReadsAs`). Texts of the usual form have the same reading here (`Reads.readsAs`), and again a text has at most one
(`ReadsAs.unique`).

Query text is negated and joined with others with brackets around it if `hasConnective` finds a connective in it. That
is a connective between plain blanks, so it does not see every one. A text is `Clear` if it is one term or if the scan
finds one of its connectives. Clear texts keep their meaning under negation and in groups, and other texts do not
keep it under negation (`clear_texts_keep_their_readings`).
-/

namespace EntityQuery

open RawText

/-- The tokens have this reading. The tokens of a predicate are the words of its usual form, a bracketed sentence is one
token. -/
inductive ReadsTokens (predicate : List Char → Prop) : Rank → List (List Char) → Reading → Prop
  | predicate {cs : List Char} : predicate cs → ReadsTokens predicate .term (words cs) (.predicate cs)
  | not {ts : List (List Char)} {r : Reading} : ReadsTokens predicate .term ts r →
      ReadsTokens predicate .term (negationKeyword.toList :: ts) (.not r)
  | brackets {cs : List Char} {r : Reading} : Balanced cs → ReadsTokens predicate .sentence (tokens cs) r →
      ReadsTokens predicate .term ['(' :: (cs ++ [')'])] r
  | term {ts : List (List Char)} {r : Reading} : ReadsTokens predicate .term ts r →
      ReadsTokens predicate .sentence ts r
  | join {ts us : List (List Char)} {r s : Reading} (c : Connective) : ReadsTokens predicate .sentence ts r →
      ReadsTokens predicate .term us s → ReadsTokens predicate .sentence (ts ++ c.keyword.toList :: us) (.join c r s)

/-- The text, whose brackets match and whose literals are closed, has this reading in any spacing. -/
structure ReadsAs (predicate : List Char → Prop) (rank : Rank) (cs : List Char) (r : Reading) : Prop where
  balanced : Balanced cs
  tokens : ReadsTokens predicate rank (tokens cs) r

variable {predicate : List Char → Prop} {rank : Rank} {cs ds : List Char} {ts : List (List Char)} {r s : Reading}
  {c : Connective}

/-! ## One reading -/

namespace ReadsTokens

theorem term_cases (h : ReadsTokens predicate .term ts r) :
    (∃ cs, predicate cs ∧ ts = words cs ∧ r = .predicate cs) ∨
    (∃ us s, ts = negationKeyword.toList :: us ∧ r = .not s ∧ ReadsTokens predicate .term us s) ∨
    ∃ cs, ts = ['(' :: (cs ++ [')'])] ∧ ReadsTokens predicate .sentence (tokens cs) r := by
  cases h with
  | predicate hp => exact .inl ⟨_, hp, rfl, rfl⟩
  | not h => exact .inr (.inl ⟨_, _, rfl, rfl, h⟩)
  | brackets _ h => exact .inr (.inr ⟨_, rfl, h⟩)

theorem sentence_cases (h : ReadsTokens predicate .sentence ts r) :
    ReadsTokens predicate .term ts r ∨
    ∃ c as bs t u, ts = as ++ c.keyword.toList :: bs ∧ r = .join c t u ∧
      ReadsTokens predicate .sentence as t ∧ ReadsTokens predicate .term bs u := by
  cases h with
  | term h => exact .inl h
  | join c h h' => exact .inr ⟨c, _, _, _, _, rfl, rfl, h, h'⟩

theorem ne_nil (h : ReadsTokens predicate rank ts r) : ts ≠ [] := by
  induction h with
  | predicate => exact wordsFrom_ne_nil _ _
  | not => exact List.cons_ne_nil _ _
  | brackets => exact List.cons_ne_nil _ _
  | term _ ih => exact ih
  | join => simp

variable (hpred : ∀ cs, predicate cs → IsTriple cs)
include hpred

theorem no_connective (h : ReadsTokens predicate rank ts r) (hrank : rank = .term) (c : Connective) :
    c.keyword.toList ∉ ts := by
  induction h with
  | predicate hp => exact (hpred _ hp).no_connective c
  | not _ ih =>
    rw [List.mem_cons, not_or]
    exact ⟨connective_ne_negation c, ih rfl⟩
  | brackets =>
    rw [List.mem_singleton]
    exact connective_ne_brackets c _
  | term => cases hrank
  | join => cases hrank

omit hpred in
theorem of_negation (h : ReadsTokens predicate .sentence (negationKeyword.toList :: ts) (.not r)) :
    ReadsTokens predicate .term ts r := by
  rcases h.sentence_cases with h | ⟨c, as, bs, t, u, -, heq, -, -⟩
  · rcases h.term_cases with ⟨cs, -, -, heq⟩ | ⟨us, s, htokens, heq, h⟩ | ⟨cs, htokens, -⟩
    · cases heq
    · cases heq
      rwa [(List.cons.inj htokens).2]
    · exact absurd (List.cons.inj htokens).1 (negation_ne_brackets _)
  · cases heq

omit hpred in
theorem cut_at_last_connective {as as' bs bs' : List (List Char)} {c c' : Connective}
    (hbs : ∀ c : Connective, c.keyword.toList ∉ bs) (hbs' : ∀ c : Connective, c.keyword.toList ∉ bs')
    (h : as ++ c.keyword.toList :: bs = as' ++ c'.keyword.toList :: bs') :
    as = as' ∧ c = c' ∧ bs = bs' := by
  rcases List.append_eq_append_iff.1 h with ⟨more, rfl, hmore⟩ | ⟨more, rfl, hmore⟩
  · cases more with
    | nil =>
      obtain ⟨hc, rfl⟩ := List.cons.inj hmore
      exact ⟨(List.append_nil as).symm, Connective.keyword_inj hc, rfl⟩
    | cons w more =>
      refine absurd ?_ (hbs c')
      rw [(List.cons.inj hmore).2]
      simp
  · cases more with
    | nil =>
      obtain ⟨hc, rfl⟩ := List.cons.inj hmore
      exact ⟨List.append_nil as', Connective.keyword_inj hc.symm, rfl⟩
    | cons w more =>
      refine absurd ?_ (hbs' c)
      rw [(List.cons.inj hmore).2]
      simp

theorem unique (h : ReadsTokens predicate rank ts r) (h' : ReadsTokens predicate rank ts s) : r = s := by
  -- the first token tells the three kinds of terms apart, and a sentence is cut at its last connective
  induction h generalizing s with
  | @predicate cs hp =>
    have hcs := hpred cs hp
    rcases h'.term_cases with ⟨ds, -, hwords, rfl⟩ | ⟨us, t, hwords, -, -⟩ | ⟨ds, hwords, -⟩
    · rw [words_inj hwords]
    · exact absurd hwords (hcs.words_ne_negation us)
    · exact absurd hwords (hcs.words_ne_singleton _)
  | @not ts r h ih =>
    rcases h'.term_cases with ⟨ds, hp, hwords, -⟩ | ⟨us, t, hwords, rfl, hus⟩ | ⟨ds, hwords, -⟩
    · exact absurd hwords.symm ((hpred ds hp).words_ne_negation ts)
    · rw [← (List.cons.inj hwords).2] at hus
      rw [ih hus]
    · exact absurd (List.cons.inj hwords).1 (negation_ne_brackets _)
  | @brackets cs r hcs h ih =>
    rcases h'.term_cases with ⟨ds, hp, hwords, -⟩ | ⟨us, t, hwords, -, -⟩ | ⟨ds, hwords, hds⟩
    · exact absurd hwords.symm ((hpred ds hp).words_ne_singleton _)
    · exact absurd (List.cons.inj hwords).1.symm (negation_ne_brackets _)
    · obtain rfl := (List.append_inj' (List.cons.inj (List.cons.inj hwords).1).2 rfl).1
      exact ih hds
  | @term ts r h ih =>
    rcases h'.sentence_cases with h' | ⟨c, as, bs, t, u, rfl, -, -, -⟩
    · exact ih h'
    · exact absurd (by simp) (h.no_connective hpred rfl c)
  | @join ts us r s' c h hterm ih ih' =>
    rcases h'.sentence_cases with h' | ⟨c', as, bs, t, u, htokens, rfl, has, hbs⟩
    · exact absurd (by simp) (h'.no_connective hpred rfl c)
    · obtain ⟨rfl, rfl, rfl⟩ := cut_at_last_connective (hterm.no_connective hpred rfl)
        (hbs.no_connective hpred rfl) htokens
      rw [ih has, ih' hbs]

end ReadsTokens

/-- **A text has at most one reading**, also in free spacing. -/
theorem ReadsAs.unique (hpred : ∀ cs, predicate cs → IsTriple cs) (h : ReadsAs predicate rank cs r)
    (h' : ReadsAs predicate rank cs s) : r = s := h.tokens.unique hpred h'.tokens

/-! ## Texts inside texts -/

theorem tokens_negation : tokens negationKeyword.toList = [negationKeyword.toList] := by
  decide

theorem tokens_connective (c : Connective) : tokens c.keyword.toList = [c.keyword.toList] := by
  cases c with
  | and => decide
  | or => decide

theorem tokens_not (cs : List Char) :
    tokens (negationKeyword.toList ++ ' ' :: cs) = negationKeyword.toList :: tokens cs := by
  rw [tokens_append_blank Reads.negation_balanced.run_start (by decide), tokens_negation]
  rfl

theorem tokens_join (c : Connective) {x y : Char} (hx : Text.isBlankChar x = true) (hy : Text.isBlankChar y = true)
    (h : Balanced cs) (ds : List Char) :
    tokens (cs ++ x :: (c.keyword.toList ++ y :: ds)) = tokens cs ++ c.keyword.toList :: tokens ds := by
  rw [tokens_append_blank h.run_start hx, tokens_append_blank (Reads.keyword_balanced c).run_start hy,
    tokens_connective]
  rfl

namespace ReadsAs

theorem sentence (h : ReadsAs predicate .term cs r) : ReadsAs predicate .sentence cs r :=
  ⟨h.balanced, .term h.tokens⟩

theorem brackets (h : ReadsAs predicate .sentence cs r) : ReadsAs predicate .term ('(' :: (cs ++ [')'])) r := by
  refine ⟨h.balanced.brackets, ?_⟩
  rw [tokens_bracket h.balanced, tokens_nil]
  exact .brackets h.balanced h.tokens

theorem not (h : ReadsAs predicate .term cs r) :
    ReadsAs predicate .term (negationKeyword.toList ++ ' ' :: cs) (.not r) := by
  refine ⟨Reads.negation_balanced.append (.cons (by decide) h.balanced), ?_⟩
  rw [tokens_not]
  exact .not h.tokens

theorem join (c : Connective) {x y : Char} (hx : Text.isBlankChar x = true) (hy : Text.isBlankChar y = true)
    (h : ReadsAs predicate .sentence cs r) (h' : ReadsAs predicate .term ds s) :
    ReadsAs predicate .sentence (cs ++ x :: (c.keyword.toList ++ y :: ds)) (.join c r s) := by
  have hrest : Balanced (c.keyword.toList ++ y :: ds) :=
    (Reads.keyword_balanced c).append (.cons (isBlankChar_plain hy) h'.balanced)
  refine ⟨h.balanced.append (.cons (isBlankChar_plain hx) hrest), ?_⟩
  rw [tokens_join c hx hy h.balanced]
  exact .join c h.tokens h'.tokens

theorem join_brackets (c : Connective) {a : List Char} (ha : Balanced a) (hcs : Balanced cs)
    (h : ReadsAs predicate .sentence (a ++ '(' :: (cs ++ [')'])) r) (h' : ReadsAs predicate .sentence ds s) :
    ReadsAs predicate .sentence ((a ++ '(' :: (cs ++ [')'])) ++ (c.keyword.toList ++ '(' :: (ds ++ [')'])))
      (.join c r s) := by
  refine ⟨h.balanced.append ((Reads.keyword_balanced c).append h'.balanced.brackets), ?_⟩
  have htokens : RawText.tokens ((a ++ '(' :: (cs ++ [')'])) ++ (c.keyword.toList ++ '(' :: (ds ++ [')']))) =
      RawText.tokens (a ++ '(' :: (cs ++ [')'])) ++ c.keyword.toList :: RawText.tokens ('(' :: (ds ++ [')'])) := by
    rw [List.append_assoc, List.cons_append, List.append_assoc, List.singleton_append,
      tokens_append_bracket ha.run_start, tokens_append_bracket ha.run_start, tokens_bracket hcs, tokens_bracket hcs,
      tokens_append_bracket (Reads.keyword_balanced c).run_start, tokens_connective, tokens_nil, List.append_assoc]
    rfl
  rw [htokens]
  exact .join c h.tokens h'.brackets.tokens

end ReadsAs

/-! ## Texts of the usual form -/

theorem isNameChar_not_blank {x : Char} (h : isNameChar x = true) : Text.isBlankChar x = false := by
  have hascending : Text.Ascending Text.blankRanges = true := by
    decide
  have hapart : Text.blankRanges.all (fun q => Text.wordRanges.all fun r => decide (q.2 < r.1 ∨ r.2 < q.1)) = true := by
    decide +kernel
  rw [Bool.eq_false_iff]
  intro hblank
  simp only [isNameChar, isSegmentChar, Bool.or_eq_true, beq_iff_eq] at h
  rcases h with ((hword | rfl) | rfl) | rfl
  · obtain ⟨q, hq, hlow, hhigh⟩ := (Text.inRanges_iff hascending _).1 hblank
    obtain ⟨r, hr, hlow', hhigh'⟩ := (Text.inRanges_iff Text.wordRanges_ascending _).1 hword
    have := of_decide_eq_true (List.all_eq_true.1 (List.all_eq_true.1 hapart q hq) r hr)
    omega
  · exact absurd hblank (by decide)
  · exact absurd hblank (by decide)
  · exact absurd hblank (by decide)

theorem IsOperator.tokens_eq {op : List Char} (h : IsOperator op) : tokens op = [op] := by
  cases h with
  | comparison op => cases op <;> decide
  | relationship op => cases op <;> decide
  | inclusion op => cases op <;> decide

theorem IsLiteral.tokens_eq (h : IsLiteral cs) : tokens cs = [cs] := by
  cases h with
  | missing => decide
  | yes => decide
  | no => decide
  | number hnum =>
    refine tokens_of_plain hnum.1 fun x hx => ?_
    obtain ⟨-, hquote, hopen, hclose, -⟩ := numeral_plain hnum x hx
    refine ⟨?_, hquote, hopen, hclose⟩
    rcases hnum.2 x hx with hdigit | rfl | rfl
    · have hword : Text.isWordChar x = true :=
        Text.isWordChar_of_isAlphanum (.inl (by rw [Char.isAlphanum, hdigit, Bool.or_true]))
      exact isNameChar_not_blank (by rw [isNameChar, isSegmentChar, hword, Bool.true_or, Bool.true_or, Bool.true_or])
    · decide
    · decide
  | text hread => exact tokens_of_readLiteral hread

theorem Path.IsSubject.tokens_eq {p : Path} (h : p.IsSubject) : tokens p.toText.toList = [p.toText.toList] := by
  refine tokens_of_plain (h.named.toText_ne_nil h.nonempty) fun x hx => ?_
  have hname := h.named.isNameChar x hx
  exact ⟨isNameChar_not_blank hname, isNameChar_plain hname⟩

theorem IsPredicate.tokens_eq (h : IsPredicate cs) : tokens cs = words cs := by
  have hthree : ∀ {p : Path} {op unit : List Char}, p.IsSubject → IsOperator op → IsUnit unit → tokens unit = [unit] →
      tokens (p.toText.toList ++ ' ' :: (op ++ ' ' :: unit)) = words (p.toText.toList ++ ' ' :: (op ++ ' ' :: unit)) := by
    intro p op unit hp hop hunit htokens
    have hnamed := hp.named.isNameChar
    rw [tokens_append_blank (balanced_of_isNameChar hnamed).run_start (by decide),
      tokens_append_blank hop.balanced.run_start (by decide), words_append (balanced_of_isNameChar hnamed),
      words_append hop.balanced, hp.tokens_eq, hop.tokens_eq, htokens, words_of_isNameChar hnamed, hop.words_eq,
      hunit.words_eq]
  have hbrackets : ∀ {inner : List Char}, Balanced inner → tokens ('(' :: (inner ++ [')'])) = ['(' :: (inner ++ [')'])] :=
    fun hinner => tokens_bracket hinner []
  cases h with
  | comparison op hp hliteral => exact hthree hp (.comparison op) (.literal hliteral) hliteral.tokens_eq
  | relationship op hp hinner _ => exact hthree hp (.relationship op) (.brackets hinner) (hbrackets hinner)
  | inclusion op hp hinner _ => exact hthree hp (.inclusion op) (.brackets hinner) (hbrackets hinner)

/-- **A text of the usual form has its reading in free spacing too.** -/
theorem Reads.readsAs (h : Reads IsPredicate rank cs r) : ReadsAs IsPredicate rank cs r := by
  induction h with
  | predicate hp =>
    refine ⟨hp.isTriple.balanced, ?_⟩
    rw [hp.tokens_eq]
    exact .predicate hp
  | not _ ih => exact ih.not
  | brackets _ ih => exact ih.brackets
  | term _ ih => exact ih.sentence
  | join c _ _ ih ih' => exact ih.join c (by decide) (by decide) ih'

/-! ## Clear texts -/

/-- A connective outside brackets and literals stands between plain blanks. -/
def ShowsConnective (cs : List Char) : Prop :=
  ∃ (pre : List Char) (c : Connective) (post : List Char),
    cs = pre ++ ' ' :: (c.keyword.toList ++ ' ' :: post) ∧ Position.start.run pre = .start

/-- The text is one term, or a scan finds that it is not. -/
def Clear (predicate : List Char → Prop) (cs : List Char) : Prop :=
  (∃ r, ReadsAs predicate .term cs r) ∨ ShowsConnective cs

theorem startsConnective_iff :
    startsConnective cs = true ↔ ∃ (c : Connective) (post : List Char), cs = ' ' :: (c.keyword.toList ++ ' ' :: post) := by
  rw [startsConnective, Bool.or_eq_true, List.isPrefixOf_iff_prefix, List.isPrefixOf_iff_prefix]
  constructor
  · rintro (⟨post, rfl⟩ | ⟨post, rfl⟩)
    · exact ⟨.and, post, rfl⟩
    · exact ⟨.or, post, rfl⟩
  · rintro ⟨c, post, rfl⟩
    cases c with
    | and => exact .inl ⟨post, rfl⟩
    | or => exact .inr ⟨post, rfl⟩

/-- A scan finds just the connectives between plain blanks. -/
theorem hasConnectiveFrom_iff (cs : List Char) : hasConnectiveFrom .start cs = true ↔ ShowsConnective cs := by
  rw [hasConnectiveFrom_iff_exists]
  constructor
  · rintro ⟨pre, post, rfl, hrun, hstarts⟩
    obtain ⟨c, post, rfl⟩ := startsConnective_iff.1 hstarts
    exact ⟨pre, c, post, rfl, hrun⟩
  · rintro ⟨pre, c, post, rfl, hrun⟩
    exact ⟨pre, _, rfl, hrun, startsConnective_iff.2 ⟨c, post, rfl⟩⟩

/-! ## Query text under `not` and in groups -/

section

open EntityQuery.Expr

variable {t : String} {us : List String} {reading : String → Reading}

def guarded (t : String) : List Char := if hasConnective t then '(' :: (t.toList ++ [')']) else t.toList

theorem part_raw (c : Connective) (t : String) : part c (raw t) = guarded t := by
  rw [part, bracketsIn, Expr.text, guarded]

theorem ReadsAs.raw_live (h : ReadsAs predicate .sentence t.toList r) : (raw t).isEmpty = false := by
  rw [isEmpty, Bool.eq_false_iff]
  intro hblank
  exact h.tokens.ne_nil (tokens_blank (List.all_eq_true.1 hblank))

theorem toList_negate_raw (hlive : (raw t).isEmpty = false) :
    (negate (raw t)).text.toList = negationKeyword.toList ++ ' ' :: guarded t := by
  rw [negate_of_live hlive (by simp), toList_not, bracketsUnderNot, Expr.text, guarded]

theorem ReadsAs.sentence_guarded (h : ReadsAs predicate .sentence t.toList r) :
    ReadsAs predicate .sentence (guarded t) r := by
  rw [guarded]
  split
  · exact h.brackets.sentence
  · exact h

theorem ReadsAs.term_guarded (hpred : ∀ cs, predicate cs → IsTriple cs) (h : ReadsAs predicate .sentence t.toList r)
    (hclear : Clear predicate t.toList) : ReadsAs predicate .term (guarded t) r := by
  rw [guarded]
  split
  · exact h.brackets
  next hnone =>
    rcases hclear with ⟨s, hs⟩ | hshown
    · rwa [h.unique hpred hs.sentence]
    · exact absurd ((hasConnectiveFrom_iff _).2 hshown) hnone

theorem reads_negate_raw_iff (hpred : ∀ cs, predicate cs → IsTriple cs) (h : ReadsAs predicate .sentence t.toList r) :
    ReadsAs predicate .sentence (negate (raw t)).text.toList (.not r) ↔ Clear predicate t.toList := by
  rw [toList_negate_raw h.raw_live]
  constructor
  · intro hnot
    rw [Clear, ← hasConnectiveFrom_iff]
    cases hscan : hasConnective t with
    | true => exact .inr hscan
    | false =>
      have htokens := hnot.tokens
      rw [guarded, hscan, tokens_not] at htokens
      exact .inl ⟨r, h.balanced, htokens.of_negation⟩
  · intro hclear
    exact (h.term_guarded hpred hclear).not.sentence

theorem ReadsAs.joined (c : Connective) (h : ReadsAs predicate .sentence cs r)
    (hus : ∀ u ∈ us, ReadsAs predicate .term (guarded u) (reading u)) :
    ReadsAs predicate .sentence ((between c).intercalate (cs :: us.map guarded))
      (us.foldl (fun r u => .join c r (reading u)) r) := by
  induction us generalizing cs r with
  | nil => rwa [List.map_nil, List.intercalate_singleton]
  | cons u us ih =>
    have hfirst := h.join c (x := ' ') (y := ' ') (by decide) (by decide) (hus u (by simp))
    have htext : (between c).intercalate (cs :: (u :: us).map guarded) =
        (between c).intercalate ((cs ++ ' ' :: (c.keyword.toList ++ ' ' :: guarded u)) ::
          us.map guarded) := by
      cases us with
      | nil => simp [between]
      | cons v us => simp [between, List.intercalate_cons_cons]
    rw [htext]
    exact ih hfirst fun v hv => hus v (by simp [hv])

theorem holds_joined (c : Connective) (us : List String) (r : Reading) (truth : List Char → Prop) :
    (us.foldl (fun r u => Reading.join c r (reading u)) r).Holds truth ↔
      c.Join (r.Holds truth) (c.Over us fun u => (reading u).Holds truth) := by
  induction us generalizing r with
  | nil => cases c <;> simp [Connective.Join, Connective.Over]
  | cons u us ih =>
    rw [List.foldl_cons, ih, Connective.over_cons]
    exact Connective.join_assoc.symm

theorem exprs_raw (ts : List String) : Criterion.exprs (ts.map .raw) = .ok (ts.map raw) :=
  Criterion.exprs_map (fun _ => rfl) ts

def combined : Connective → List Criterion → Except Error Expr
  | .and => allOf
  | .or => anyOf

theorem combined_raw (c : Connective) (ts : List String) : combined c (ts.map .raw) = .ok (group c (ts.map raw)) := by
  cases c with
  | and => rw [combined, allOf, exprs_raw]; rfl
  | or => rw [combined, anyOf, exprs_raw]; rfl

theorem reads_group_raw (c : Connective) (hne : us ≠ []) (h : ReadsAs predicate .sentence t.toList r)
    (hlive : ∀ u ∈ us, (raw u).isEmpty = false)
    (hus : ∀ u ∈ us, ReadsAs predicate .term (guarded u) (reading u)) :
    ReadsAs predicate .sentence (group c ((t :: us).map raw)).text.toList
      (us.foldl (fun r u => .join c r (reading u)) r) := by
  have hall : live ((t :: us).map raw) = (t :: us).map raw := by
    refine live_eq_self ?_
    rw [List.forall_mem_map]
    exact List.forall_mem_cons.2 ⟨h.raw_live, hlive⟩
  have hmany : 1 < (live ((t :: us).map raw)).length := by
    rw [hall, List.length_map, List.length_cons]
    exact Nat.succ_lt_succ (List.length_pos_iff.2 hne)
  have hparts : parts c (live ((t :: us).map raw)) =
      (between c).intercalate (guarded t :: us.map guarded) := by
    rw [hall, parts, List.map_map]
    exact congrArg _ (List.map_congr_left fun u _ => part_raw c u)
  have hjoined := h.sentence_guarded.joined c hus
  rw [text_group, ← text_ofConnective, toList_join c hmany]
  cases c with
  | and => rwa [hparts]
  | or =>
    rw [hparts]
    exact hjoined.brackets.sentence

/-! ## The main statement -/

/-- **Clear query texts keep their readings, and only they do so under `not`.** The text of a denied query text has one
reading, the denial of what the text says, just when the text is clear. The text of a group of query texts, of which
the first may be unclear, has one reading, and it holds just when all members hold or when some do. -/
theorem clear_texts_keep_their_readings (t : String) (r : Reading) (h : ReadsAs IsPredicate .sentence t.toList r) :
    ((∀ s, ReadsAs IsPredicate .sentence (negate (raw t)).text.toList s ↔ s = .not r) ↔
      Clear IsPredicate t.toList) ∧
    ∀ (c : Connective) (us : List String), us ≠ [] →
      (∀ u ∈ us, (∃ s, ReadsAs IsPredicate .sentence u.toList s) ∧ Clear IsPredicate u.toList) →
      ∃ e joined, combined c ((t :: us).map .raw) = .ok e ∧
        (∀ s, ReadsAs IsPredicate .sentence e.text.toList s ↔ s = joined) ∧
        ∀ truth, joined.Holds truth ↔
          c.Over (t :: us) fun u => ∃ s, ReadsAs IsPredicate .sentence u.toList s ∧ s.Holds truth := by
  have hpred : ∀ cs, IsPredicate cs → IsTriple cs := fun _ => IsPredicate.isTriple
  have hone : ∀ {cs : List Char} {r : Reading}, ReadsAs IsPredicate .sentence cs r →
      ∀ s, ReadsAs IsPredicate .sentence cs s ↔ s = r := by
    intro cs r hr s
    constructor
    · exact fun hs => hs.unique hpred hr
    · rintro rfl
      exact hr
  refine ⟨?_, fun c us hne hus => ?_⟩
  · rw [← reads_negate_raw_iff hpred h]
    exact ⟨fun hsame => (hsame _).2 rfl, hone⟩
  · have hread : ∀ u ∈ t :: us, ∃ s, ReadsAs IsPredicate .sentence u.toList s :=
      List.forall_mem_cons.2 ⟨⟨r, h⟩, fun u hu => (hus u hu).1⟩
    have hsome : Nonempty Reading := ⟨r⟩
    choose! reading hreading using hread
    have hrest : ∀ u ∈ us, ReadsAs IsPredicate .sentence u.toList (reading u) :=
      fun u hu => hreading u (List.mem_cons_of_mem t hu)
    have hgroup := reads_group_raw c hne (hreading t List.mem_cons_self) (fun u hu => (hrest u hu).raw_live)
      fun u hu => (hrest u hu).term_guarded hpred (hus u hu).2
    have hmember : ∀ truth, ∀ u ∈ t :: us, (reading u).Holds truth ↔
        ∃ s, ReadsAs IsPredicate .sentence u.toList s ∧ s.Holds truth := by
      intro truth u hu
      constructor
      · exact fun hholds => ⟨_, hreading u hu, hholds⟩
      · rintro ⟨s, hs, hholds⟩
        rwa [(hreading u hu).unique hpred hs]
    refine ⟨_, _, combined_raw c _, hone hgroup, fun truth => ?_⟩
    rw [holds_joined, ← Connective.over_cons (P := fun u => (reading u).Holds truth)]
    exact Connective.over_congr (hmember truth)

theorem readsAs_number (name : String) (n : Nat) (hname : IsSegment name ∧ name.toList ∉ reservedWords) :
    ReadsAs IsPredicate .term (name.toList ++ ' ' :: (Comparison.equal.keyword.toList ++ ' ' :: Nat.toDigits 10 n))
      (.predicate (name.toList ++ ' ' :: (Comparison.equal.keyword.toList ++ ' ' :: Nat.toDigits 10 n))) :=
  Reads.readsAs (.predicate (isPredicate_number name n hname))

/-- A text in which one of two connectives stands between plain blanks is clear, and so is a term after it. -/
theorem readings_of_text_with_tab :
    (∀ s, ReadsAs IsPredicate .sentence (negate (raw "c is 3\tand d is 4 or a is 1")).text.toList s ↔
      s = .not (.join .or (.join .and (.predicate "c is 3".toList) (.predicate "d is 4".toList))
        (.predicate "a is 1".toList))) ∧
    ∃ e joined, combined .and (["c is 3\tand d is 4 or a is 1", "not b is 2"].map .raw) = .ok e ∧
      (∀ s, ReadsAs IsPredicate .sentence e.text.toList s ↔ s = joined) ∧
      ∀ truth, joined.Holds truth ↔
        Connective.and.Over ["c is 3\tand d is 4 or a is 1", "not b is 2"] fun u =>
          ∃ s, ReadsAs IsPredicate .sentence u.toList s ∧ s.Holds truth := by
  have ha := readsAs_number "a" 1 (by decide)
  have hb := readsAs_number "b" 2 (by decide)
  have hc := readsAs_number "c" 3 (by decide)
  have hd := readsAs_number "d" 4 (by decide)
  have htab : ReadsAs IsPredicate .sentence "c is 3\tand d is 4 or a is 1".toList _ :=
    (hc.sentence.join .and (x := '\t') (y := ' ') (by decide) (by decide) hd).join .or (x := ' ') (y := ' ')
      (by decide) (by decide) ha
  have hclear : Clear IsPredicate "c is 3\tand d is 4 or a is 1".toList :=
    .inr ((hasConnectiveFrom_iff _).1 (by decide))
  have hterm : ReadsAs IsPredicate .term "not b is 2".toList _ := hb.not
  have hrest : ∀ u ∈ ["not b is 2"],
      (∃ s, ReadsAs IsPredicate .sentence u.toList s) ∧ Clear IsPredicate u.toList :=
    List.forall_mem_singleton.2 ⟨⟨_, hterm.sentence⟩, .inl ⟨_, hterm⟩⟩
  obtain ⟨hnegated, hgroup⟩ := clear_texts_keep_their_readings _ _ htab
  exact ⟨hnegated.2 hclear, hgroup .and _ (List.cons_ne_nil _ _) hrest⟩

/-- After a tab and between brackets the scan misses an `or`: the text is denied without brackets, and `not` is read as
part of its first term. -/
theorem unclear_texts_denied_in_part :
    ∃ r s truth, (∀ t ∈ ["a is 1\tor b is 2", "(a is 1)or(b is 2)"],
      ReadsAs IsPredicate .sentence t.toList r ∧ ReadsAs IsPredicate .sentence (negate (raw t)).text.toList s) ∧
      ¬ (s.Holds truth ↔ ¬ r.Holds truth) := by
  have ha := readsAs_number "a" 1 (by decide)
  have hb := readsAs_number "b" 2 (by decide)
  refine ⟨.join .or (.predicate "a is 1".toList) (.predicate "b is 2".toList),
    .join .or (.not (.predicate "a is 1".toList)) (.predicate "b is 2".toList), fun _ => True, ?_, ?_⟩
  · have hblank : Text.isBlankChar '\t' = true ∧ Text.isBlankChar ' ' = true := by
      decide
    simp only [List.forall_mem_cons]
    refine ⟨⟨?_, ?_⟩, ⟨?_, ?_⟩, List.forall_mem_nil _⟩
    · exact ha.sentence.join .or hblank.1 hblank.2 hb
    · exact ha.not.sentence.join .or hblank.1 hblank.2 hb
    · exact ha.sentence.brackets.sentence.join_brackets .or (a := []) .nil ha.balanced hb.sentence
    · exact ha.sentence.brackets.not.sentence.join_brackets .or (a := "not ".toList) (balanced_of_all (by decide))
        ha.balanced hb.sentence
  · simp [Reading.Holds, Connective.Join]

end

end EntityQuery
