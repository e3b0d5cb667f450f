import EntityQuery.Proofs.Built
import EntityQuery.Proofs.Rendering
import EntityQuery.Proofs.UniqueReading

/-!
# What texts of expressions say

A text of a canonical tree has a reading with the meaning of the tree, provided that the texts of its leaves have
(`Canonical.spoken`).

The induction over the tree carries three facts about each expression (`Spoken`): its text is a sentence that says what
the tree says; its text is even a term unless it has to be bracketed under `not`; and as a part of a group it can follow
any sentence and a connective (`Continues`). The last is what a conjunction needs that stands inside a conjunction without
brackets: it is no term, yet reading on through it from the left gives the same meaning.
-/

namespace EntityQuery

open RawText

/-! ## Connectives between propositions -/

def Connective.Over {α : Type} : Connective → List α → (α → Prop) → Prop
  | .and, ts, P => ∀ t ∈ ts, P t
  | .or, ts, P => ∃ t ∈ ts, P t

namespace Connective

variable {c : Connective} {p q q' r : Prop} {α : Type} {P : α → Prop}

theorem join_assoc : c.Join p (c.Join q r) ↔ c.Join (c.Join p q) r := by
  cases c with
  | and => exact and_assoc.symm
  | or => exact or_assoc.symm

theorem join_congr {p' : Prop} (hp : p ↔ p') (hq : q ↔ q') : c.Join p q ↔ c.Join p' q' := by
  rw [propext hp, propext hq]

theorem over_singleton {t : α} : c.Over [t] P ↔ P t := by
  cases c <;> simp [Over]

theorem over_cons {t : α} {ts : List α} : c.Over (t :: ts) P ↔ c.Join (P t) (c.Over ts P) := by
  cases c <;> simp [Over, Join]

theorem over_congr {ts : List α} {Q : α → Prop} (h : ∀ t ∈ ts, P t ↔ Q t) : c.Over ts P ↔ c.Over ts Q := by
  cases c with
  | and => exact forall₂_congr h
  | or => exact exists_congr fun t => and_congr_right (h t)

end Connective

namespace Expr

/-- Whether a leaf holds, given which predicates are true: one predicate is true or not, a raw text holds if its own
reading does. -/
def leafHolds (predicate truth : List Char → Prop) : Expr → Prop
  | raw text => ∃ r, Reads predicate .sentence text.toList r ∧ r.Holds truth
  | e => truth e.text.toList

def meaning (predicate : List Char → Prop) (e : Expr) (truth : List Char → Prop) : Prop :=
  e.Holds (leafHolds predicate truth)

/-! ## Texts and what they say -/

/-- The text has a reading that holds just when `P` does. -/
def Says (predicate : List Char → Prop) (rank : Rank) (cs : List Char) (P : (List Char → Prop) → Prop) : Prop :=
  ∃ r, Reads predicate rank cs r ∧ ∀ truth, r.Holds truth ↔ P truth

/-- The text can stand alone, and it can follow any sentence and the connective. -/
structure Continues (predicate : List Char → Prop) (c : Connective) (cs : List Char)
    (P : (List Char → Prop) → Prop) : Prop where
  alone : Says predicate .sentence cs P
  after {ds : List Char} {Q : (List Char → Prop) → Prop} : Says predicate .sentence ds Q →
    Says predicate .sentence (ds ++ (between c ++ cs)) fun truth => c.Join (Q truth) (P truth)

variable {predicate : List Char → Prop} {rank : Rank} {c : Connective} {cs ds : List Char}
  {P Q : (List Char → Prop) → Prop} {e : Expr} {ts : List Expr}

theorem Says.congr (h : Says predicate rank cs P) (hPQ : ∀ truth, P truth ↔ Q truth) : Says predicate rank cs Q := by
  obtain ⟨r, hr, hP⟩ := h
  exact ⟨r, hr, fun truth => (hP truth).trans (hPQ truth)⟩

theorem Says.sentence (h : Says predicate .term cs P) : Says predicate .sentence cs P := by
  obtain ⟨r, hr, hP⟩ := h
  exact ⟨r, .term hr, hP⟩

theorem Says.brackets (h : Says predicate .sentence cs P) : Says predicate .term ('(' :: (cs ++ [')'])) P := by
  obtain ⟨r, hr, hP⟩ := h
  exact ⟨r, .brackets hr, hP⟩

theorem Says.not (h : Says predicate .term cs P) :
    Says predicate .term (negationKeyword.toList ++ ' ' :: cs) fun truth => ¬ P truth := by
  obtain ⟨r, hr, hP⟩ := h
  exact ⟨.not r, .not hr, fun truth => not_congr (hP truth)⟩

theorem Says.join (c : Connective) (h : Says predicate .sentence cs P) (h' : Says predicate .term ds Q) :
    Says predicate .sentence (cs ++ (between c ++ ds)) fun truth => c.Join (P truth) (Q truth) := by
  obtain ⟨r, hr, hP⟩ := h
  obtain ⟨s, hs, hQ⟩ := h'
  have htext : cs ++ (between c ++ ds) = cs ++ ' ' :: (c.keyword.toList ++ ' ' :: ds) := by
    simp [between]
  rw [htext]
  exact ⟨.join c r s, .join c hr hs, fun truth => Connective.join_congr (hP truth) (hQ truth)⟩

theorem Says.continues (h : Says predicate .term cs P) : Continues predicate c cs P :=
  ⟨h.sentence, fun hds => hds.join c h⟩

theorem Continues.join (h : Continues predicate c cs P) (h' : Continues predicate c ds Q) :
    Continues predicate c (cs ++ (between c ++ ds)) fun truth => c.Join (P truth) (Q truth) := by
  refine ⟨h'.after h.alone, fun {as R} has => ?_⟩
  have htext : as ++ (between c ++ (cs ++ (between c ++ ds))) =
      (as ++ (between c ++ cs)) ++ (between c ++ ds) := by
    simp only [List.append_assoc]
  rw [htext]
  -- read from the left, the first text joins what stands before it and the second joins both
  exact (h'.after (h.after has)).congr fun truth => Connective.join_assoc.symm

theorem Continues.congr (h : Continues predicate c cs P) (hPQ : ∀ truth, P truth ↔ Q truth) :
    Continues predicate c cs Q := by
  have hsame : P = Q := funext fun truth => propext (hPQ truth)
  exact hsame ▸ h

theorem Continues.parts (hne : ts ≠ []) (h : ∀ t ∈ ts, Continues predicate c (part c t) (meaning predicate t)) :
    Continues predicate c (parts c ts) fun truth => c.Over ts fun t => meaning predicate t truth := by
  induction ts with
  | nil => exact absurd rfl hne
  | cons t ts ih =>
    have ht := h t (by simp)
    cases ts with
    | nil =>
      rw [Expr.parts, List.map_singleton, List.intercalate_singleton]
      exact ht.congr fun truth => (Connective.over_singleton (P := fun t => meaning predicate t truth)).symm
    | cons u us =>
      have hrest := ih (by simp) fun v hv => h v (by simp [hv])
      have htext : Expr.parts c (t :: u :: us) = part c t ++ (between c ++ Expr.parts c (u :: us)) := by
        rw [Expr.parts, List.map_cons, List.map_cons, List.intercalate_cons_cons, List.append_assoc]
        rfl
      rw [htext]
      exact (ht.join hrest).congr fun truth => (Connective.over_cons (P := fun t => meaning predicate t truth)).symm

/-! ## The induction over the tree -/

/-- What is carried through the tree: the text of the expression says what the expression does, alone, as a part of
a group, and under `not`. -/
structure Spoken (predicate : List Char → Prop) (e : Expr) : Prop where
  alone : Says predicate .sentence e.text.toList (meaning predicate e)
  term : e.bracketsUnderNot = false → Says predicate .term e.text.toList (meaning predicate e)
  part (c : Connective) : Continues predicate c (part c e) (meaning predicate e)

theorem Says.spoken (h : Says predicate .term e.text.toList (meaning predicate e))
    (hbrackets : ∀ c, e.bracketsIn c = false) : Spoken predicate e := by
  refine ⟨h.sentence, fun _ => h, fun c => ?_⟩
  rw [Expr.part, hbrackets c]
  exact h.continues

theorem meaning_of_isLeaf (h : e.isLeaf = true) (truth : List Char → Prop) :
    meaning predicate e truth ↔ leafHolds predicate truth e := holds_of_isLeaf h

theorem spoken_predicate (h : predicate e.text.toList) (hatomic : e.isAtomic = true) : Spoken predicate e := by
  have hsays : Says predicate .term e.text.toList (meaning predicate e) := by
    refine ⟨_, .predicate h, fun truth => ?_⟩
    rw [meaning_of_isLeaf (isLeaf_of_isAtomic hatomic)]
    cases e with
    | raw => cases hatomic
    | _ => rfl
  exact hsays.spoken (plain_of_isAtomic hatomic).2.2

theorem spoken_raw (hpred : ∀ cs, predicate cs → IsTriple cs) {text : String} {r : Reading}
    (h : Reads predicate .sentence text.toList r) : Spoken predicate (raw text) := by
  have hmeaning : ∀ truth, r.Holds truth ↔ meaning predicate (raw text) truth := by
    intro truth
    rw [meaning_of_isLeaf rfl]
    constructor
    · intro hholds
      exact ⟨r, h, hholds⟩
    · rintro ⟨s, hs, hholds⟩
      rwa [h.unique hpred hs]
  have hterm : (raw text).bracketsUnderNot = false →
      Says predicate .term (raw text).text.toList (meaning predicate (raw text)) :=
    fun hnone => ⟨r, h.term_of_no_connective hpred hnone, hmeaning⟩
  have halone : Says predicate .sentence (raw text).text.toList (meaning predicate (raw text)) := ⟨r, h, hmeaning⟩
  refine ⟨halone, hterm, fun c => ?_⟩
  rw [Expr.part]
  split
  · exact halone.brackets.continues
  next hnone => exact (hterm (by simpa [bracketsIn, bracketsUnderNot] using hnone)).continues

theorem spoken_not {t : Expr} (h : Spoken predicate t) : Spoken predicate (not t) := by
  have hterm : Says predicate .term (not t).text.toList (meaning predicate (not t)) := by
    rw [toList_not]
    have hnot : ∀ truth, (¬ meaning predicate t truth) ↔ meaning predicate (not t) truth :=
      fun truth => holds_not.symm
    split
    · exact h.alone.brackets.not.congr hnot
    next hbrackets => exact (h.term (by simpa using hbrackets)).not.congr hnot
  exact hterm.spoken fun c => rfl

theorem meaning_group (hlive : live ts = ts) (hne : ts ≠ []) (truth : List Char → Prop) :
    c.Over ts (fun t => meaning predicate t truth) ↔ meaning predicate (ofConnective c ts) truth := by
  cases c with
  | and => rw [meaning, ofConnective, holds_and, hlive]; rfl
  | or => rw [meaning, ofConnective, holds_or, hlive, or_iff_right hne]; rfl

/-- A disjunction brings its own brackets; a conjunction is bracketed beside `or` and under `not`. -/
theorem spoken_group (hlive : ∀ t ∈ ts, t.isEmpty = false) (hlength : 1 < ts.length)
    (h : ∀ t ∈ ts, Spoken predicate t) : Spoken predicate (ofConnective c ts) := by
  have hsame : live ts = ts := live_eq_self hlive
  have hne : ts ≠ [] := by
    rintro rfl
    cases hlength
  have hparts : Continues predicate c (parts c ts) (meaning predicate (ofConnective c ts)) :=
    (Continues.parts hne fun t ht => (h t ht).part c).congr (meaning_group hsame hne)
  have hmany : 1 < (live ts).length := by
    rwa [hsame]
  have htext := toList_join c hmany
  rw [hsame] at htext
  -- the parts say what the group does; the connective decides who brings the brackets
  cases c with
  | or =>
    refine Says.spoken ?_ fun c => rfl
    rw [htext]
    exact hparts.alone.brackets
  | and =>
    have hunder : (ofConnective .and ts).bracketsUnderNot = true := bracketsUnderNot_of_many .and hmany
    refine ⟨?_, fun hnone => ?_, fun c => ?_⟩
    · rw [htext]
      exact hparts.alone
    · rw [hunder] at hnone
      cases hnone
    · rw [part]
      cases c with
      | and =>
        have hinside : (ofConnective .and ts).bracketsIn .and = false := rfl
        rw [hinside, htext]
        exact hparts
      | or =>
        have hinside : (ofConnective .and ts).bracketsIn .or = true := by
          simp [ofConnective, bracketsIn, hsame, hlength]
        rw [hinside, htext]
        exact hparts.alone.brackets.continues

/-- If the texts of live leaves say what the leaves do, so do the texts of live canonical trees. -/
theorem Canonical.spoken {leaf : Expr → Prop}
    (hleaf : ∀ e, leaf e → e.isEmpty = false → Spoken predicate e) (h : Canonical leaf e)
    (hlive : e.isEmpty = false) : Spoken predicate e := by
  induction h with
  | leaf _ hok => exact hleaf _ hok hlive
  | @group c ts hterms hlength _ ih =>
    refine spoken_group hterms ?_ fun t ht => ih t ht (hterms t ht)
    cases ts with
    | nil =>
      rw [isEmpty_ofConnective] at hlive
      cases hlive
    | cons t us =>
      rw [List.length_cons] at hlength ⊢
      omega
  | not hterm _ _ ih => exact spoken_not (ih hterm)

end Expr

end EntityQuery
