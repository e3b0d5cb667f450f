import EntityQuery.Proofs.Grammar
import EntityQuery.Proofs.Listings

/-!
# Reading clauses from their words

`readClauses` reads the sections of a statement in their fixed order: attributes to fetch, entity type, condition,
groups, sort keys, offset, limit. Every section but the entity type may be missing, and nothing but its keyword tells
where it begins, while names may be the same words as keywords.

Two things make the reading exact (`readClauses_words`). A condition ends at the first word after a predicate that is no
connective, so names of its paths are never taken for keywords (`Reads.consumes`). And a leading `select` stands for
attributes only if, after the names and `from`, an entity type follows and then nothing or a keyword: where
`select` is the entity type and the condition starts with a path `from`, there stands a literal or a bracket.
-/

namespace EntityQuery

open RawText

/-! ## Conditions -/

inductive Expecting where
  | term
  | operator
  | unit
  | connective

def Expecting.next : Expecting → List Char → Option Expecting
  | term, w =>
    if w = negationKeyword.toList then some term
    else if w.head? = some '(' then some connective
    else some operator
  | operator, _ => some unit
  | unit, _ => some connective
  | connective, w =>
    if w = Connective.and.keyword.toList ∨ w = Connective.or.keyword.toList then some term else none

def readCondition : Expecting → List (List Char) → List (List Char) × List (List Char)
  | _, [] => ([], [])
  | e, w :: ws =>
    match e.next w with
    | none => ([], w :: ws)
    | some e =>
      let (read, rest) := readCondition e ws
      (w :: read, rest)

/-- Reading goes over these words from one state to the other. -/
def Consumes (e : Expecting) (us : List (List Char)) (e' : Expecting) : Prop :=
  ∀ ws, readCondition e (us ++ ws) = (us ++ (readCondition e' ws).1, (readCondition e' ws).2)

variable {e e' e'' : Expecting} {us vs rest tail : List (List Char)} {w : List Char} {cs : List Char}
  {predicate : List Char → Prop} {rank : Rank} {r : Reading}

theorem Consumes.nil : Consumes e [] e := fun _ => rfl

theorem Consumes.cons (hw : e.next w = some e') (h : Consumes e' us e'') : Consumes e (w :: us) e'' := by
  intro ws
  rw [List.cons_append, readCondition, hw]
  simp only [h ws, List.cons_append]

theorem Consumes.append (h : Consumes e us e') (h' : Consumes e' vs e'') : Consumes e (us ++ vs) e'' := by
  intro ws
  rw [List.append_assoc, h, h', List.append_assoc]

theorem next_connective (c : Connective) : Expecting.connective.next c.keyword.toList = some .term := by
  cases c <;> rfl

/-- **The words of a sentence are read up to its end**, after which only a connective could go on. -/
theorem Reads.consumes (hpred : ∀ cs, predicate cs → IsTriple cs) (h : Reads predicate rank cs r) :
    Consumes .term (words cs) .connective := by
  induction h with
  | predicate hp =>
    obtain ⟨name, op, unit, hwords, hname, hfree, -, -⟩ := (hpred _ hp).words_eq
    have hnot : name ≠ negationKeyword.toList := fun h => hfree (h ▸ negation_mem_reservedWords)
    have hopen : name.head? ≠ some '(' :=
      fun h => not_mem_of_isNameChar hname (by simp) (List.mem_of_mem_head? h)
    have hfirst : Expecting.term.next name = some .operator := by
      rw [Expecting.next, if_neg hnot, if_neg hopen]
    rw [hwords]
    exact .cons hfirst (.cons rfl (.cons rfl .nil))
  | not _ ih =>
    rw [words_not]
    exact .cons rfl ih
  | brackets h _ =>
    rw [words_brackets (h.balanced hpred)]
    refine .cons ?_ .nil
    rw [Expecting.next, if_neg, List.head?_cons, if_pos rfl]
    exact fun heq => absurd (List.cons.inj heq).1 (by decide)
  | term _ ih => exact ih
  | join c h _ ih ih' =>
    rw [words_join c (h.balanced hpred)]
    exact ih.append (.cons (next_connective c) ih')

theorem Reads.first_words (hpred : ∀ cs, predicate cs → IsTriple cs) (h : Reads predicate rank cs r) :
    ∃ w ws, words cs = w :: ws ∧ (w = negationKeyword.toList ∨ w.head? = some '(' ∨
      ∃ op unit us, ws = op :: unit :: us ∧ IsUnit unit) := by
  induction h with
  | predicate hp =>
    obtain ⟨name, op, unit, hwords, -, -, -, hunit⟩ := (hpred _ hp).words_eq
    exact ⟨name, [op, unit], hwords, .inr (.inr ⟨op, unit, [], rfl, hunit⟩)⟩
  | not => exact ⟨_, _, words_not _, .inl rfl⟩
  | brackets h _ => exact ⟨_, _, words_brackets (h.balanced hpred), .inr (.inl rfl)⟩
  | term _ ih => exact ih
  | join c h _ ih _ =>
    obtain ⟨w, ws, hwords, hfirst⟩ := ih
    refine ⟨w, _, by rw [words_join c (h.balanced hpred), hwords, List.cons_append], ?_⟩
    refine hfirst.imp_right (Or.imp_right ?_)
    rintro ⟨op, unit, us, rfl, hunit⟩
    exact ⟨op, unit, _, rfl, hunit⟩

/-! ## Clauses -/

structure Summary where
  projection : List (List Char)
  entityType : List Char
  /-- The words of the condition. -/
  condition : List (List Char)
  groupBy : List (List Char)
  /-- Paths, and whether the key is descending. -/
  sort : List (List Char × Bool)
  offset : List (List Char)
  limit : List (List Char)

def clauseKeywords : List (List Char) :=
  ["where".toList, "group".toList, "order".toList, "offset".toList, "limit".toList, "set".toList]

instance (keywords ws : List (List Char)) : Decidable (StartsIn keywords ws) :=
  inferInstanceAs (Decidable (∀ w ∈ ws.head?, w ∈ keywords))

def readProjection (ws : List (List Char)) : List (List Char) × List (List Char) :=
  match ws with
  | [] => ([], [])
  | w :: us =>
    if w = "select".toList then
      match listing us with
      | (names, v :: entityType :: rest) =>
        if v = "from".toList ∧ StartsIn clauseKeywords rest then (names, entityType :: rest) else ([], w :: us)
      | _ => ([], w :: us)
    else ([], w :: us)

def readClauses (ws : List (List Char)) : Summary × List (List Char) :=
  let (projection, ws) := readProjection ws
  let entityType := ws.headD []
  let (condition, ws) := optional ["where".toList] (readCondition .term) ws.tail
  let (groupBy, ws) := optional ["group".toList, "by".toList] listing ws
  let (sort, ws) := optional ["order".toList, "by".toList] sortKeys ws
  let (offset, ws) := optional ["offset".toList] (List.splitAt 1) ws
  let (limit, ws) := optional ["limit".toList] (List.splitAt 1) ws
  (⟨projection, entityType, condition, groupBy, sort, offset, limit⟩, ws)

namespace Summary

def endWords (s : Summary) (tail : List (List Char)) : List (List Char) :=
  sectionWords ["group".toList, "by".toList] (listingWords (s.groupBy.map fun name => [name])) ++
  (sectionWords ["order".toList, "by".toList] (listingWords (s.sort.map keyWords)) ++
  (sectionWords ["offset".toList] s.offset ++ (sectionWords ["limit".toList] s.limit ++ tail)))

def sections (s : Summary) (tail : List (List Char)) : List (List Char) :=
  sectionWords ["where".toList] s.condition ++ s.endWords tail

def words (s : Summary) (tail : List (List Char)) : List (List Char) :=
  (if s.projection = [] then []
    else "select".toList :: (listingWords (s.projection.map fun name => [name]) ++ ["from".toList])) ++
  s.entityType :: s.sections tail

/-- Names end without a comma, the condition is a sentence, and the numbers are numbers. -/
structure IsProper (s : Summary) : Prop where
  projection : ∀ name ∈ s.projection, name.getLast? ≠ some ','
  condition : s.condition = [] ∨ ∃ cs r, s.condition = RawText.words cs ∧ Reads IsTriple .sentence cs r
  groupBy : ∀ name ∈ s.groupBy, name.getLast? ≠ some ','
  sort : ∀ key ∈ s.sort, key.1.getLast? ≠ some ','
  offset : s.offset = [] ∨ ∃ digits, s.offset = [digits] ∧ IsNumeral digits
  limit : s.limit = [] ∨ ∃ digits, s.limit = [digits] ∧ IsNumeral digits

end Summary

/-- What may follow clauses: nothing, or assignments. -/
inductive IsTail : List (List Char) → Prop
  | nil : IsTail []
  | assignments (cs : List Char) : IsTail ["set".toList, '(' :: cs]

theorem IsTail.startsIn (h : IsTail tail) : StartsIn ["set".toList] tail := by
  cases h with
  | nil => exact nofun
  | assignments cs => simp [StartsIn]

/-! ## Where sections begin -/

namespace Summary

variable {s : Summary}

theorem endWords_startsIn (s : Summary) (htail : IsTail tail) :
    StartsIn ["group".toList, "order".toList, "offset".toList, "limit".toList, "set".toList] (s.endWords tail) :=
  (((htail.startsIn.section _ _ _).section _ _ _).section _ _ _).section _ _ _

theorem sections_startsIn (s : Summary) (htail : IsTail tail) : StartsIn clauseKeywords (s.sections tail) :=
  (s.endWords_startsIn htail).section _ _ _

def NotSecond (x : List Char) (ws : List (List Char)) : Prop := ∀ v ∈ ws.tail.head?, v ≠ x

theorem notSecond_section {x : List Char} {keyword body : List (List Char)} (hrest : NotSecond x rest)
    (h : body ≠ [] → NotSecond x (keyword ++ body ++ rest)) : NotSecond x (sectionWords keyword body ++ rest) := by
  rw [sectionWords]
  split
  · exact hrest
  next hbody => exact h hbody

theorem notSecond_number {body : List (List Char)} (k : List Char) (hrest : NotSecond "from".toList rest)
    (h : body = [] ∨ ∃ digits, body = [digits] ∧ IsNumeral digits) :
    NotSecond "from".toList (sectionWords [k] body ++ rest) := by
  refine notSecond_section hrest fun hbody => ?_
  obtain ⟨digits, rfl, hdigits⟩ := h.resolve_left hbody
  rintro v hv rfl
  obtain rfl : digits = "from".toList := Option.some.inj hv
  exact absurd (hdigits.2 'f' (by decide)) (by decide)

theorem endWords_notSecond (h : s.IsProper) (htail : IsTail tail) : NotSecond "from".toList (s.endWords tail) := by
  have hby : ∀ (k : List Char) (body rest : List (List Char)),
      NotSecond "from".toList ([k, "by".toList] ++ body ++ rest) := by
    intro k body rest v hv
    obtain rfl : "by".toList = v := Option.some.inj hv
    decide
  have hend : NotSecond "from".toList tail := by
    cases htail with
    | nil => exact nofun
    | assignments cs =>
      intro v hv
      obtain rfl : '(' :: cs = v := Option.some.inj hv
      exact fun heq => absurd (List.cons.inj heq).1 (by decide)
  exact notSecond_section (notSecond_section (notSecond_number _ (notSecond_number _ hend h.limit) h.offset)
    fun _ => hby _ _ _) fun _ => hby _ _ _

theorem sections_not_from (h : s.IsProper) (htail : IsTail tail) {k v t : List Char}
    (hwords : s.sections tail = k :: v :: t :: rest) : ¬ (v = "from".toList ∧ StartsIn clauseKeywords rest) := by
  rintro ⟨rfl, hrest⟩
  rcases h.condition with hnone | ⟨cs, r, hcs, hr⟩
  · rw [sections, hnone] at hwords
    exact endWords_notSecond h htail "from".toList (by rw [show s.endWords tail = _ from hwords]; rfl) rfl
  · obtain ⟨w, ws, hfirst, hcase⟩ := hr.first_words fun _ => id
    rw [sections, sectionWords, hcs, hfirst, if_neg (List.cons_ne_nil _ _)] at hwords
    obtain ⟨rfl, hmore⟩ := List.cons.inj (List.cons.inj hwords).2
    rcases hcase with hnot | hopen | ⟨op, unit, us, rfl, hunit⟩
    · exact absurd hnot (by decide)
    · exact absurd hopen (by decide)
    · -- the condition starts with a path `from`, and its unit is taken for a keyword
      obtain ⟨-, rfl⟩ := List.cons.inj hmore
      exact hunit.not_mem (by decide) (hrest unit rfl)

/-! ## What was written is read back -/

theorem readProjection_words (h : s.IsProper) (htail : IsTail tail) :
    readProjection (s.words tail) = (s.projection, s.entityType :: s.sections tail) := by
  rw [words]
  by_cases hnone : s.projection = []
  · rw [if_pos hnone, hnone, List.nil_append, readProjection]
    split
    next hselect =>
      -- the entity type is the word `select`
      split
      next names v t rest hlisting =>
        refine if_neg ?_
        cases hsections : s.sections tail with
        | nil =>
          rw [hsections, listing] at hlisting
          cases hlisting
        | cons k us =>
          have hcomma : ∀ k ∈ clauseKeywords, k.getLast? ≠ some ',' := by
            decide
          have hk : k.getLast? ≠ some ',' := hcomma k (s.sections_startsIn htail k (by simp [hsections]))
          rw [hsections, listing, if_neg hk] at hlisting
          obtain ⟨-, rfl⟩ := Prod.mk.inj hlisting
          exact sections_not_from h htail hsections
      · rfl
    · rfl
  · have hread := listing_listingWords ("from".toList :: s.entityType :: s.sections tail) hnone h.projection
    have hfollow := s.sections_startsIn htail
    rw [if_neg hnone, List.cons_append, List.append_assoc, List.singleton_append, readProjection,
      if_pos rfl, hread]
    exact if_pos ⟨rfl, hfollow⟩

theorem readCondition_stops {keywords : List (List Char)} (hrest : StartsIn keywords rest)
    (hand : Connective.and.keyword.toList ∉ keywords) (hor : Connective.or.keyword.toList ∉ keywords) :
    readCondition .connective rest = ([], rest) := by
  cases rest with
  | nil => rfl
  | cons w ws =>
    have hw := hrest w (by simp)
    have hnext : Expecting.connective.next w = none := by
      rw [Expecting.next, if_neg]
      rintro (rfl | rfl)
      · exact hand hw
      · exact hor hw
    rw [readCondition, hnext]

theorem optional_condition (h : s.IsProper) (htail : IsTail tail) :
    optional ["where".toList] (readCondition .term) (s.sections tail) = (s.condition, s.endWords tail) := by
  refine optional_sectionWords (s.endWords_startsIn htail) (by decide) id fun hne => ?_
  obtain ⟨cs, r, hcs, hr⟩ := h.condition.resolve_left hne
  rw [hcs, hr.consumes (fun _ => id), readCondition_stops (s.endWords_startsIn htail) (by decide) (by decide),
    List.append_nil]

theorem optional_number {keywords body : List (List Char)} (k : List Char) (hrest : StartsIn keywords rest)
    (hk : k ∉ keywords) (h : body = [] ∨ ∃ digits, body = [digits] ∧ IsNumeral digits) :
    optional [k] (List.splitAt 1) (sectionWords [k] body ++ rest) = (body, rest) := by
  refine optional_sectionWords hrest hk id fun hne => ?_
  obtain ⟨digits, rfl, -⟩ := h.resolve_left hne
  rw [List.splitAt_eq]
  rfl

theorem optional_listing {α : Type} {read : List (List Char) → List α × List (List Char)} {xs : List α}
    {keywords : List (List Char)} (k : List Char) (more : List (List Char)) (row : α → List (List Char))
    (hrest : StartsIn keywords rest) (hk : k ∉ keywords) (hrow : ∀ x, row x ≠ [])
    (hread : xs ≠ [] → read (listingWords (xs.map row) ++ rest) = (xs, rest)) :
    optional (k :: more) read (sectionWords (k :: more) (listingWords (xs.map row)) ++ rest) = (xs, rest) := by
  refine optional_sectionWords hrest hk (fun hnil => ?_) fun hne => hread ?_
  · have hrows : ∀ ws ∈ xs.map row, ws ≠ [] := by
      rw [List.forall_mem_map]
      exact fun x _ => hrow x
    exact List.map_eq_nil_iff.1 (listingWords_eq_nil hrows hnil)
  · rintro rfl
    exact hne rfl

/-- **The words of clauses are read back**, and what follows them is left. -/
theorem readClauses_words (h : s.IsProper) (htail : IsTail tail) : readClauses (s.words tail) = (s, tail) := by
  have hlimit := htail.startsIn
  have hoffset := hlimit.section "limit".toList [] s.limit
  have hsort := hoffset.section "offset".toList [] s.offset
  have hgroup := hsort.section "order".toList ["by".toList] (listingWords (s.sort.map keyWords))
  have hreadGroup : optional ["group".toList, "by".toList] listing (s.endWords tail) = (s.groupBy, _) :=
    optional_listing _ _ _ hgroup (by decide) (fun _ => List.cons_ne_nil _ _)
      fun hne => listing_listingWords _ hne h.groupBy
  have hreadSort := optional_listing "order".toList ["by".toList] keyWords hsort (by decide) keyWords_ne_nil
    fun hne => sortKeys_listingWords hne h.sort fun v hv => by
      have hother : ∀ k ∈ ["offset".toList, "limit".toList, "set".toList],
          k ≠ descendingWord ∧ k ≠ descendingWord ++ [','] := by
        decide
      exact hother v (hsort v hv)
  have hreadOffset := optional_number "offset".toList hoffset (by decide) h.offset
  have hreadLimit := optional_number "limit".toList hlimit (by decide) h.limit
  rw [readClauses, readProjection_words h htail]
  simp only [List.headD_cons, List.tail_cons, optional_condition h htail, hreadGroup, hreadSort, hreadOffset,
    hreadLimit]

end Summary

end EntityQuery
