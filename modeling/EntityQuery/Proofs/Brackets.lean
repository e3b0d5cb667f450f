import EntityQuery.Proofs.FreeSpacing

/-!
# Brackets under a negation

Whether `not` needs brackets before an expression is decided on the tree, and whether a text is more than one term is
found out by a scan. Both agree on expressions whose leaves can be told from the grammar around them: every leaf is
balanced as it is written (`Sealed`), no path is taken for a connective and no query text begins with one
(`Unmistakable`).

There is one exception, and on it the two always disagree. A pattern with an odd run of backslashes closes its literal
early, and a connective of the pattern may come to stand outside. The tree is one comparison, perhaps denied or alone
in a group (`Spills`), so there are no brackets, and the scan finds a connective
(`negation_brackets_where_connective_shows`).

The scan is followed from word to word (`hasConnectiveFrom_word`): it can find a connective only where one word ends.
-/

namespace EntityQuery

namespace RawText

open Position

variable {a b : List Char} {x : Char}

/-! ## From word to word -/

theorem run_ne_start_of_word {pre post : List Char} (hword : words (pre ++ ' ' :: post) = [pre ++ ' ' :: post]) :
    Position.start.run pre ≠ .start := by
  intro hstart
  have hlength := congrArg List.length hword
  rw [words, wordsFrom_append .start pre post hstart, List.length_append, List.length_singleton] at hlength
  have hpre := List.length_pos_of_ne_nil (wordsFrom_ne_nil .start pre)
  have hpost := List.length_pos_of_ne_nil (wordsFrom_ne_nil .start post)
  rw [words] at hlength
  omega

theorem hasConnectiveFrom_of_word (hword : words a = [a]) : hasConnectiveFrom .start a = false := by
  rw [Bool.eq_false_iff]
  intro hfound
  obtain ⟨pre, post, rfl, hrun, hstarts⟩ := hasConnectiveFrom_iff_exists.1 hfound
  obtain ⟨c, post, rfl⟩ := startsConnective_iff.1 hstarts
  exact run_ne_start_of_word hword hrun

theorem hasConnectiveFrom_append_of_inside {p : Position} (hrun : p.run a = .start)
    (hinside : ∀ pre post, a = pre ++ ' ' :: post → p.run pre ≠ .start) (b : List Char) :
    hasConnectiveFrom p (a ++ ' ' :: b) = (startsConnective (' ' :: b) || hasConnectiveFrom .start b) := by
  induction a generalizing p with
  | nil =>
    rw [run_nil] at hrun
    rw [hrun, List.nil_append, hasConnectiveFrom, decide_eq_true rfl, Bool.true_and]
    rfl
  | cons c a ih =>
    have hnone : (decide (p = .start) && startsConnective (c :: (a ++ ' ' :: b))) = false := by
      rw [Bool.eq_false_iff, ne_eq, Bool.and_eq_true, decide_eq_true_eq]
      rintro ⟨rfl, hstarts⟩
      obtain ⟨d, post, htext⟩ := startsConnective_iff.1 hstarts
      exact hinside [] a (by rw [(List.cons.inj htext).1, List.nil_append]) rfl
    rw [List.cons_append, hasConnectiveFrom, hnone, Bool.false_or]
    exact ih hrun fun pre post hsplit => hinside (c :: pre) post (by rw [hsplit, List.cons_append])

theorem hasConnectiveFrom_word (hbalanced : Balanced a) (hword : words a = [a]) (b : List Char) :
    hasConnectiveFrom .start (a ++ ' ' :: b) = (startsConnective (' ' :: b) || hasConnectiveFrom .start b) := by
  refine hasConnectiveFrom_append_of_inside hbalanced.run_start (fun pre post hsplit => ?_) b
  rw [hsplit] at hword
  exact run_ne_start_of_word hword

theorem startsConnective_word (hbalanced : Balanced a) (hword : words a = [a])
    (h : startsConnective (' ' :: (a ++ ' ' :: b)) = true) : ∃ c : Connective, a = c.keyword.toList := by
  obtain ⟨c, post, htext⟩ := startsConnective_iff.1 h
  have hwords := congrArg words (List.cons.inj htext).2
  have hkeyword : words c.keyword.toList = [c.keyword.toList] := words_of_no_blank (by cases c <;> decide)
  rw [words_append hbalanced, hword, words_append (Reads.keyword_balanced c), hkeyword] at hwords
  exact ⟨c, (List.cons.inj hwords).1⟩

theorem startsConnective_of_opensUnit (hopens : opensUnit x = true) (b : List Char) :
    startsConnective (' ' :: x :: b) = false := by
  rw [Bool.eq_false_iff]
  intro hstarts
  obtain ⟨c, post, htext⟩ := startsConnective_iff.1 hstarts
  cases c with
  | and =>
    obtain rfl : x = 'a' := (List.cons.inj (List.cons.inj htext).2).1
    cases hopens
  | or =>
    obtain rfl : x = 'o' := (List.cons.inj (List.cons.inj htext).2).1
    cases hopens

end RawText

open RawText

/-! ## Leaves that can be told from what stands around them -/

/-- The path has no blank in it and is no connective. -/
structure Path.Unmistakable (p : Path) : Prop where
  no_blank : ' ' ∉ p.toText.toList
  ne_connective : ∀ c : Connective, p.toText.toList ≠ c.keyword.toList

theorem Path.Unmistakable.words_eq {p : Path} (h : p.Unmistakable) : words p.toText.toList = [p.toText.toList] :=
  words_of_no_blank h.no_blank

namespace Expr

/-- Under groups and negations, no path is taken for a connective, and no query text begins with one. -/
inductive Unmistakable : Expr → Prop
  | compare {path : Path} {op : Comparison} {value : Value} : path.Unmistakable → Unmistakable (compare path op value)
  | related {path : Path} {op : Relationship} {condition : Expr} : path.Unmistakable →
      Unmistakable (related path op condition)
  | member {path : Path} {op : Inclusion} {members : Members} : path.Unmistakable →
      Unmistakable (member path op members)
  | and {ts : List Expr} : (∀ t ∈ ts, Unmistakable t) → Unmistakable (and ts)
  | or {ts : List Expr} : (∀ t ∈ ts, Unmistakable t) → Unmistakable (or ts)
  | not {t : Expr} : Unmistakable t → Unmistakable (not t)
  | raw {text : String} : startsConnective (' ' :: text.toList) = false → Unmistakable (raw text)

/-- The expression is one comparison with a pattern, perhaps denied or alone in a group, and the pattern closes its
literal early and shows a connective behind it. -/
inductive Spills : Expr → Prop
  | pattern {path : Path} {op : Comparison} {s : String} : op.takesPattern = true → ¬ Literal.EvenRuns s.toList →
      hasConnective (Literal.quotePattern s) = true → Spills (compare path op (.text s))
  | alone {ts : List Expr} {t : Expr} (c : Connective) : live ts = [t] → Spills t → Spills (ofConnective c ts)
  | not {t : Expr} : Spills t → Spills (not t)

variable {e t : Expr} {ts : List Expr} {c : Connective}

theorem Sealed.of_mem (h : (ofConnective c ts).Sealed) (ht : t ∈ ts) : t.Sealed := by
  cases c with
  | and => cases h with | and hterms => exact hterms t ht
  | or => cases h with | or hterms => exact hterms t ht

theorem Unmistakable.of_mem (h : (ofConnective c ts).Unmistakable) (ht : t ∈ ts) : t.Unmistakable := by
  cases c with
  | and => cases h with | and hterms => exact hterms t ht
  | or => cases h with | or hterms => exact hterms t ht

/-! ## What the scan finds in predicates -/

section

variable {path : Path} {op : List Char} (hbalanced : Balanced path.toText.toList) (hpath : path.Unmistakable)
include hbalanced hpath

theorem startsConnective_predicate (rest : List Char) :
    startsConnective (' ' :: (path.toText.toList ++ ' ' :: rest)) = false := by
  rw [Bool.eq_false_iff]
  intro hstarts
  obtain ⟨c, hc⟩ := startsConnective_word hbalanced hpath.words_eq hstarts
  exact hpath.ne_connective c hc

theorem hasConnectiveFrom_predicate (hop : IsOperator op) {x : Char} (hopens : opensUnit x = true)
    (rest : List Char) :
    hasConnectiveFrom .start (path.toText.toList ++ ' ' :: (op ++ ' ' :: x :: rest)) =
      hasConnectiveFrom .start (x :: rest) := by
  have hstarts : startsConnective (' ' :: (op ++ ' ' :: x :: rest)) = false := by
    rw [Bool.eq_false_iff]
    intro hstarts
    obtain ⟨c, rfl⟩ := startsConnective_word hop.balanced hop.words_eq hstarts
    exact hop.plain.2 (connective_mem_reservedWords c)
  rw [hasConnectiveFrom_word hbalanced hpath.words_eq, hstarts, hasConnectiveFrom_word hop.balanced hop.words_eq,
    startsConnective_of_opensUnit hopens, Bool.false_or, Bool.false_or]

theorem hasConnectiveFrom_unit (hop : IsOperator op) {unit : List Char} (hunit : IsUnit unit) :
    hasConnectiveFrom .start (path.toText.toList ++ ' ' :: (op ++ ' ' :: unit)) = false := by
  obtain ⟨x, hhead, hopens⟩ := hunit.head
  obtain ⟨rest, rfl⟩ := List.head?_eq_some_iff.1 hhead
  rw [hasConnectiveFrom_predicate hbalanced hpath hop hopens]
  exact hasConnectiveFrom_of_word hunit.words_eq

theorem hasConnective_pattern {op : Comparison} (htakes : op.takesPattern = true) (s : String) :
    hasConnective (compare path op (.text s)).text = hasConnective (Literal.quotePattern s) := by
  rw [hasConnective, toList_compare, operand, if_pos htakes, Literal.encodePattern, Literal.toList_quotePattern,
    hasConnectiveFrom_predicate hbalanced hpath (.comparison op) (by decide), hasConnective,
    Literal.toList_quotePattern]

theorem spills_of_hasConnective_compare {op : Comparison} {value : Value}
    (h : hasConnective (compare path op value).text = true) : Spills (compare path op value) := by
  by_cases hliteral : op.takesPattern = true → ∀ s, value = .text s → Literal.EvenRuns s.toList
  · rw [hasConnective, toList_compare,
      hasConnectiveFrom_unit hbalanced hpath (.comparison op) (.literal (isLiteral_operand hliteral))] at h
    cases h
  · push Not at hliteral
    obtain ⟨htakes, s, rfl, hodd⟩ := hliteral
    rw [hasConnective_pattern hbalanced hpath htakes] at h
    exact .pattern htakes hodd h

end

theorem scan_predicate (hatomic : e.isAtomic = true) (hsealed : e.Sealed) (h : e.Unmistakable) :
    startsConnective (' ' :: e.text.toList) = false ∧ (hasConnective e.text = true → e.Spills) := by
  cases hsealed with
  | @compare path op value hbalanced _ =>
    cases h with
    | compare hpath =>
      refine ⟨?_, spills_of_hasConnective_compare hbalanced hpath⟩
      rw [toList_compare]
      exact startsConnective_predicate hbalanced hpath _
  | @related path op condition hbalanced hcondition =>
    cases h with
    | related hpath =>
      rw [hasConnective, toList_related,
        hasConnectiveFrom_unit hbalanced hpath (.relationship op) (.brackets hcondition.balanced)]
      exact ⟨startsConnective_predicate hbalanced hpath _, nofun⟩
  | @values path op values hbalanced =>
    cases h with
    | member hpath =>
      rw [hasConnective, toList_member, Members.text,
        hasConnectiveFrom_unit hbalanced hpath (.inclusion op) (.brackets (balanced_valuesText values))]
      exact ⟨startsConnective_predicate hbalanced hpath _, nofun⟩
  | @subquery path op clauses hbalanced hclauses hfilters =>
    cases h with
    | member hpath =>
      have hinner := hclauses.balanced (fun e he => (hfilters e he).balanced) true
      rw [hasConnective, toList_member, Members.text,
        hasConnectiveFrom_unit hbalanced hpath (.inclusion op) (.brackets hinner)]
      exact ⟨startsConnective_predicate hbalanced hpath _, nofun⟩
  | and => cases hatomic
  | or => cases hatomic
  | not => cases hatomic
  | raw => cases hatomic

/-! ## The decision against the scan -/

theorem startsConnective_group (c : Connective)
    (h : ∀ t ∈ ts, t.bracketsUnderNot = false → startsConnective (' ' :: t.text.toList) = false)
    (hplain : (ofConnective c ts).bracketsUnderNot = false) :
    startsConnective (' ' :: (ofConnective c ts).text.toList) = false := by
  rcases live_cases ts with hnone | ⟨t, hone, ht, -⟩ | hmany
  · rw [text_of_live_nil c hnone]
    decide
  · rw [bracketsUnderNot_of_live_one c hone] at hplain
    rw [text_of_live_one c hone]
    exact h t ht hplain
  · rw [bracketsUnderNot_of_many c hmany, decide_eq_false_iff_not] at hplain
    rw [toList_join c hmany]
    cases c with
    | and => exact absurd rfl hplain
    | or => exact startsConnective_of_opensUnit (by decide) _

theorem startsConnective_text (hsealed : e.Sealed) (h : e.Unmistakable) (hplain : e.bracketsUnderNot = false) :
    startsConnective (' ' :: e.text.toList) = false := by
  induction hsealed with
  | compare hbalanced hpattern => exact (scan_predicate rfl (.compare hbalanced hpattern) h).1
  | related hbalanced hcondition _ => exact (scan_predicate rfl (.related hbalanced hcondition) h).1
  | values hbalanced => exact (scan_predicate rfl (.values hbalanced) h).1
  | subquery hbalanced hclauses hfilters _ =>
    exact (scan_predicate rfl (.subquery hbalanced hclauses hfilters) h).1
  | and _ ih => exact startsConnective_group .and (fun t ht => ih t ht (h.of_mem (c := .and) ht)) hplain
  | or _ ih => exact startsConnective_group .or (fun t ht => ih t ht (h.of_mem (c := .or) ht)) hplain
  | not _ _ =>
    rw [toList_not]
    exact startsConnective_of_opensUnit (by decide) _
  | raw _ =>
    cases h with
    | raw hstart => exact hstart

theorem hasConnective_not (hsealed : t.Sealed) (h : t.Unmistakable) :
    hasConnective (not t).text = (!t.bracketsUnderNot && hasConnective t.text) := by
  rw [hasConnective, toList_not, hasConnectiveFrom_word Reads.negation_balanced (words_of_no_blank (by decide))]
  cases hunder : t.bracketsUnderNot with
  | true =>
    rw [if_pos rfl, startsConnective_of_opensUnit (by decide),
      hasConnectiveFrom_of_word (words_brackets hsealed.balanced)]
    rfl
  | false =>
    rw [if_neg Bool.false_ne_true, startsConnective_text hsealed h hunder]
    rfl

theorem brackets_or_spills_group (c : Connective) (hbalanced : ∀ t ∈ ts, Balanced t.text.toList)
    (h : ∀ t ∈ ts, hasConnective t.text = true → t.bracketsUnderNot = true ∨ t.Spills)
    (hfound : hasConnective (ofConnective c ts).text = true) :
    (ofConnective c ts).bracketsUnderNot = true ∨ (ofConnective c ts).Spills := by
  rcases live_cases ts with hnone | ⟨t, hone, ht, -⟩ | hmany
  · rw [hasConnective, text_of_live_nil c hnone] at hfound
    cases hfound
  · rw [text_of_live_one c hone] at hfound
    rw [bracketsUnderNot_of_live_one c hone]
    exact (h t ht hfound).imp id (.alone c hone)
  · cases c with
    | and => exact .inl (bracketsUnderNot_of_many .and hmany)
    | or =>
      have hparts : Balanced (parts .or (live ts)) := balanced_parts .or fun t ht => hbalanced t (mem_live.1 ht).1
      rw [hasConnective, toList_join .or hmany, hasConnectiveFrom_of_word (words_brackets hparts)] at hfound
      cases hfound

/-- Where the scan finds a connective, the tree gives brackets or a pattern spills. -/
theorem brackets_or_spills (hsealed : e.Sealed) (h : e.Unmistakable) (hfound : hasConnective e.text = true) :
    e.bracketsUnderNot = true ∨ e.Spills := by
  induction hsealed with
  | compare hbalanced hpattern => exact .inr ((scan_predicate rfl (.compare hbalanced hpattern) h).2 hfound)
  | related hbalanced hcondition _ => exact .inr ((scan_predicate rfl (.related hbalanced hcondition) h).2 hfound)
  | values hbalanced => exact .inr ((scan_predicate rfl (.values hbalanced) h).2 hfound)
  | subquery hbalanced hclauses hfilters _ =>
    exact .inr ((scan_predicate rfl (.subquery hbalanced hclauses hfilters) h).2 hfound)
  | and hsealed ih =>
    exact brackets_or_spills_group .and (fun t ht => (hsealed t ht).balanced)
      (fun t ht => ih t ht (h.of_mem (c := .and) ht)) hfound
  | or hsealed ih =>
    exact brackets_or_spills_group .or (fun t ht => (hsealed t ht).balanced)
      (fun t ht => ih t ht (h.of_mem (c := .or) ht)) hfound
  | @not t hsealed ih =>
    -- what a scan finds after `not` it finds in the term, where the brackets do not hide it
    cases h with
    | not ht =>
      rw [hasConnective_not hsealed ht, Bool.and_eq_true, Bool.not_eq_true'] at hfound
      obtain ⟨hplain, hfound⟩ := hfound
      rcases ih ht hfound with hbrackets | hspills
      · rw [hplain] at hbrackets
        cases hbrackets
      · exact .inr hspills.not
  | raw _ => exact .inl hfound

theorem hasConnective_group (c : Connective) (hlive : (ofConnective c ts).isEmpty = false)
    (hbalanced : ∀ t ∈ ts, Balanced t.text.toList)
    (h : ∀ t ∈ ts, t.isEmpty = false → t.bracketsUnderNot = true → hasConnective t.text = true)
    (hbrackets : (ofConnective c ts).bracketsUnderNot = true) :
    hasConnective (ofConnective c ts).text = true := by
  rcases live_cases ts with hnone | ⟨t, hone, ht, htlive⟩ | hmany
  · exact absurd hnone ((isEmpty_ofConnective_eq_false_iff c).1 hlive)
  · rw [bracketsUnderNot_of_live_one c hone] at hbrackets
    rw [text_of_live_one c hone]
    exact h t ht htlive hbrackets
  · rw [bracketsUnderNot_of_many c hmany, decide_eq_true_eq] at hbrackets
    subst hbrackets
    -- the connective after the first term is found
    obtain ⟨t, u, us, hterms⟩ := exists_two_live hmany
    have ht : Balanced (part .and t) := balanced_part .and (hbalanced t (mem_live.1 (by simp [hterms])).1)
    rw [hasConnective, toList_join .and hmany, hterms, parts, List.map_cons, List.map_cons,
      List.intercalate_cons_cons, List.append_assoc]
    exact hasConnectiveFrom_append ht.run_start rfl

theorem hasConnective_of_bracketsUnderNot (hsealed : e.Sealed) (hlive : e.isEmpty = false)
    (hbrackets : e.bracketsUnderNot = true) : hasConnective e.text = true := by
  induction hsealed with
  | compare => cases hbrackets
  | related => cases hbrackets
  | values => cases hbrackets
  | subquery => cases hbrackets
  | and hsealed ih => exact hasConnective_group .and hlive (fun t ht => (hsealed t ht).balanced) ih hbrackets
  | or hsealed ih => exact hasConnective_group .or hlive (fun t ht => (hsealed t ht).balanced) ih hbrackets
  | not => cases hbrackets
  | raw => exact hbrackets

/-- Where a pattern spills, the tree gives no brackets and the scan finds a connective. -/
theorem Spills.scan (h : e.Spills) (hsealed : e.Sealed) (hapart : e.Unmistakable) :
    e.bracketsUnderNot = false ∧ hasConnective e.text = true := by
  induction h with
  | pattern htakes _ hshows =>
    cases hsealed with
    | compare hbalanced _ =>
      cases hapart with
      | compare hpath => exact ⟨rfl, (hasConnective_pattern hbalanced hpath htakes _).trans hshows⟩
  | @alone ts t c hone _ ih =>
    have ht : t ∈ ts := (mem_live.1 (by simp [hone])).1
    rw [bracketsUnderNot_of_live_one c hone, text_of_live_one c hone]
    exact ih (hsealed.of_mem ht) (hapart.of_mem ht)
  | not _ ih =>
    cases hsealed with
    | not hterm =>
      cases hapart with
      | not hterm' =>
        obtain ⟨hunder, hfound⟩ := ih hterm hterm'
        rw [hasConnective_not hterm hterm', hunder, hfound]
        exact ⟨rfl, rfl⟩

/-! ## The main statement -/

/-- **A negation has brackets just if the text after `not` shows a connective**, outside brackets and literals. The
exception are patterns that close their literal early: there the text shows a connective and has no brackets. -/
theorem negation_brackets_where_connective_shows (hlive : e.isEmpty = false) (hsealed : e.Sealed)
    (hapart : e.Unmistakable) :
    (¬ e.Spills → (e.bracketsUnderNot = true ↔ hasConnective e.text = true) ∧
      (not e).text = "not " ++ if hasConnective e.text then enclose e.text else e.text) ∧
    (e.Spills → e.bracketsUnderNot = false ∧ hasConnective e.text = true ∧ (not e).text = "not " ++ e.text) := by
  have htext : (not e).text = "not " ++ if e.bracketsUnderNot then enclose e.text else e.text := by
    rw [text]
    rfl
  constructor
  · intro hnone
    have hagree : e.bracketsUnderNot = true ↔ hasConnective e.text = true :=
      ⟨hasConnective_of_bracketsUnderNot hsealed hlive,
        fun hfound => (brackets_or_spills hsealed hapart hfound).resolve_right hnone⟩
    rw [← Bool.eq_iff_iff.2 hagree]
    exact ⟨Iff.rfl, htext⟩
  · intro hspills
    obtain ⟨hunder, hfound⟩ := hspills.scan hsealed hapart
    rw [hunder] at htext
    exact ⟨hunder, hfound, htext⟩

/-- A pattern whose first quote comes upon a backslash of its own. -/
def earlyClose : Expr := compare ⟨["name"]⟩ .like (.text "\\\" and \"")

theorem earlyClose_leaves : earlyClose.isEmpty = false ∧ earlyClose.Sealed ∧ earlyClose.Unmistakable := by
  refine ⟨rfl, .compare (balanced_of_all (by decide)) fun _ s hs => ?_, .compare ⟨by decide, fun c => ?_⟩⟩
  · obtain rfl := Value.text.inj hs
    exact fun d => rfl
  · cases c <;> decide

/-- The tree gives no brackets before a connective that the scan finds. -/
theorem early_close_shows_connective :
    earlyClose.isEmpty = false ∧ earlyClose.Sealed ∧ earlyClose.Unmistakable ∧
    earlyClose.text = "name like \"\\\\\" and \\\"\"" ∧
    ¬ (earlyClose.bracketsUnderNot = true ↔ hasConnective earlyClose.text = true) := by
  obtain ⟨hlive, hsealed, hapart⟩ := earlyClose_leaves
  exact ⟨hlive, hsealed, hapart, rfl, by decide⟩

/-- Query text alone in a group is bracketed, and a pattern that closes its literal early is not. -/
theorem brackets_of_lone_text_and_early_close :
    let lone := or [raw " ", raw "a is 1 or b is \"x\""]
    (lone.isEmpty = false ∧ lone.Sealed ∧ lone.Unmistakable ∧ ¬ lone.Spills) ∧
    (lone.bracketsUnderNot = true ↔ hasConnective lone.text = true) ∧
    (not lone).text = "not (a is 1 or b is \"x\")" ∧
    (earlyClose.isEmpty = false ∧ earlyClose.Sealed ∧ earlyClose.Unmistakable ∧ earlyClose.Spills) ∧
    earlyClose.bracketsUnderNot = false ∧ hasConnective earlyClose.text = true ∧
    (not earlyClose).text = "not name like \"\\\\\" and \\\"\"" := by
  intro lone
  have hlive : lone.isEmpty = false := by
    decide
  have hsealed : lone.Sealed := by
    refine .or (List.forall_mem_cons.2 ⟨.raw (balanced_of_all (by decide)), List.forall_mem_singleton.2 (.raw ?_)⟩)
    exact fun d => rfl
  have hapart : lone.Unmistakable :=
    .or (List.forall_mem_cons.2 ⟨.raw rfl, List.forall_mem_singleton.2 (.raw rfl)⟩)
  have hnone : ¬ lone.Spills := fun h => absurd (h.scan hsealed hapart).1 (by decide)
  obtain ⟨hagree, htext⟩ := (negation_brackets_where_connective_shows hlive hsealed hapart).1 hnone
  rw [if_pos (hagree.1 (by decide))] at htext
  obtain ⟨hearly, hearly', hearly''⟩ := earlyClose_leaves
  have hspills : earlyClose.Spills := by
    refine .pattern rfl ?_ (by decide)
    rw [Literal.evenRuns_iff_closesFrom]
    decide
  obtain ⟨hunder, hfound, htext'⟩ := (negation_brackets_where_connective_shows hearly hearly' hearly'').2 hspills
  exact ⟨⟨hlive, hsealed, hapart, hnone⟩, hagree, htext.trans rfl, ⟨hearly, hearly', hearly'', hspills⟩, hunder,
    hfound, htext'⟩

end Expr

end EntityQuery
