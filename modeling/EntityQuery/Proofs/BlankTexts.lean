import EntityQuery.Proofs.Tidy

/-!
# Emptiness shows

An expression is empty just if there is nothing but white space in its text (`Expr.isBlank_text_iff`): a term that
places a constraint writes a character that is not blank, and a group writes its live terms only. So clauses have a
condition just if one of their filters places a constraint, and this can be told from their text, since joined parts are
longer with a condition among them (`length_lt_joinParts_cons`) and differ with the condition (`Clauses.Writes.unique`).
-/

namespace EntityQuery

open Text

/-! ## Blank texts -/

namespace Expr

theorem isBlank_text_of_isEmpty {e : Expr} (h : e.isEmpty = true) : isBlank e.text = true := by
  have hgroup (c : Connective) (ts : List Expr) (hempty : allEmpty ts = true) :
      isBlank (ofConnective c ts).text = true := by
    rw [isBlank, text_of_live_nil c ((live_eq_nil_iff ts).2 hempty)]
    rfl
  cases e with
  | and ts => exact hgroup .and ts h
  | or ts => exact hgroup .or ts h
  | raw text => rwa [Expr.text]
  | _ => cases h

/-- **The text of an expression is blank just if the expression is empty.** -/
theorem isBlank_text_iff {e : Expr} : isBlank e.text = true ↔ e.isEmpty = true := by
  refine ⟨fun hblank => ?_, isBlank_text_of_isEmpty⟩
  by_contra hlive
  obtain ⟨c, hc, hvisible⟩ := exists_visible (Bool.not_eq_true _ ▸ hlive)
  rw [List.all_eq_true.1 hblank c hc] at hvisible
  cases hvisible

end Expr

/-! ## Joined parts -/

section parts

variable {x y : String} {parts front back xs ys : List String}

theorem length_le_joinParts_cons (x : String) (parts : List String) :
    (joinParts parts).length ≤ (joinParts (x :: parts)).length := by
  rw [joinParts_cons]
  split
  · exact le_refl _
  split
  next hnone => simp [String.isEmpty_iff.1 hnone]
  · simp only [String.length_append]
    omega

theorem length_lt_joinParts_cons (hx : x ≠ "") (parts : List String) :
    (joinParts parts).length < (joinParts (x :: parts)).length := by
  have hlength : 0 < x.length := Nat.pos_of_ne_zero fun h => hx (String.length_eq_zero_iff.1 h)
  rw [joinParts_cons, if_neg (mt String.isEmpty_iff.1 hx)]
  split
  next hnone => simpa [String.isEmpty_iff.1 hnone] using hlength
  · simp only [String.length_append]
    omega

theorem joinParts_cons_inj (h : joinParts (x :: xs) = joinParts (x :: ys)) : joinParts xs = joinParts ys := by
  rw [joinParts_cons, joinParts_cons] at h
  by_cases hx : x.isEmpty = true
  · rwa [if_pos hx, if_pos hx] at h
  rw [if_neg hx, if_neg hx] at h
  -- with something after it, the part is followed by a blank
  have hlonger (t : String) : x ≠ x ++ " " ++ t := by
    intro heq
    have hlength := congrArg String.length heq
    simp only [String.length_append, show " ".length = 1 from rfl] at hlength
    omega
  by_cases hxs : (joinParts xs).isEmpty = true <;> by_cases hys : (joinParts ys).isEmpty = true
  · rw [String.isEmpty_iff.1 hxs, String.isEmpty_iff.1 hys]
  · rw [if_pos hxs, if_neg hys] at h
    exact absurd h (hlonger _)
  · rw [if_neg hxs, if_pos hys] at h
    exact absurd h.symm (hlonger _)
  · rw [if_neg hxs, if_neg hys] at h
    exact (String.append_right_inj _).1 h

theorem joinParts_append_inj (h : joinParts (front ++ xs) = joinParts (front ++ ys)) : joinParts xs = joinParts ys := by
  induction front with
  | nil => exact h
  | cons part front ih => exact ih (joinParts_cons_inj h)

theorem joinParts_first_inj (h : joinParts (x :: parts) = joinParts (y :: parts)) : x = y := by
  have hnone : joinParts ("" :: parts) = joinParts parts := by
    rw [joinParts_cons, if_pos (String.isEmpty_iff.2 rfl)]
  by_cases hx : x = "" <;> by_cases hy : y = ""
  · rw [hx, hy]
  · rw [hx, hnone] at h
    exact absurd (congrArg String.length h) (Nat.ne_of_lt (length_lt_joinParts_cons hy parts))
  · rw [hy, hnone] at h
    exact absurd (congrArg String.length h) (Nat.ne_of_gt (length_lt_joinParts_cons hx parts))
  · rw [joinParts_cons, joinParts_cons, if_neg (mt String.isEmpty_iff.1 hx), if_neg (mt String.isEmpty_iff.1 hy)] at h
    split at h
    · exact h
    · exact (String.append_left_inj _).1 ((String.append_left_inj _).1 h)

end parts

/-! ## Conditions of clauses -/

namespace Clauses

variable {c : Clauses} {withProjection : Bool} {condition : String}

/-- There is a condition in the text, after `where`, between what stands before and after it. -/
def Writes (c : Clauses) (withProjection : Bool) (condition : String) : Prop :=
  c.text withProjection = joinParts (c.front withProjection ++ ("where" :: condition :: c.back))

def WritesNone (c : Clauses) (withProjection : Bool) : Prop :=
  c.text withProjection = joinParts (c.front withProjection ++ c.back)

theorem isEmpty_predicate_iff : c.predicate.isEmpty = true ↔ ∀ e ∈ c.filters, e.isEmpty = true := by
  rw [predicate, Expr.all, Expr.isEmpty_group, Expr.allEmpty_eq_all, List.all_eq_true]

theorem writesNone_of_empty (h : c.predicate.isEmpty = true) (withProjection : Bool) : c.WritesNone withProjection := by
  have hnone : c.predicate.text = "" := by
    rw [predicate, Expr.text_all_eq_empty_iff, Expr.live_eq_nil_iff, Expr.allEmpty_eq_all, List.all_eq_true]
    exact isEmpty_predicate_iff.1 h
  rw [WritesNone, text_eq_parts, hnone]
  rfl

theorem writes_of_live (h : c.predicate.isEmpty = false) (withProjection : Bool) :
    c.Writes withProjection c.predicate.text := by
  rw [Writes, text_eq_parts, conditionParts_of_shown (Expr.text_ne_nil h)]
  rfl

theorem Writes.unique {condition' : String} (h : c.Writes withProjection condition)
    (h' : c.Writes withProjection condition') : condition = condition' :=
  joinParts_first_inj (joinParts_cons_inj (joinParts_append_inj (h.symm.trans h')))

theorem WritesNone.not_writes (h : c.WritesNone withProjection) : ¬ c.Writes withProjection condition := by
  intro hwrites
  have hsame : joinParts c.back = joinParts ("where" :: condition :: c.back) :=
    joinParts_append_inj (h.symm.trans hwrites)
  have hshorter := length_le_joinParts_cons condition c.back
  have hwhere := length_lt_joinParts_cons (x := "where") (by decide) (condition :: c.back)
  rw [← hsame] at hwhere
  omega

end Clauses

/-! ## The main statement -/

/-- **An expression is empty just if its text is blank.** So clauses have a condition in their text just if some filter
is not empty, and otherwise it is as if they had no filters. The condition that stands there is that of all filters, and
it is never blank. -/
theorem emptiness_is_blankness :
    (∀ e : Expr, e.isEmpty = true ↔ trim e.text = "") ∧
    ∀ (c : Clauses) (withProjection : Bool),
      ((∃ condition, c.Writes withProjection condition) ↔ ∃ e ∈ c.filters, e.isEmpty = false) ∧
      (c.WritesNone withProjection ↔ ∀ e ∈ c.filters, e.isEmpty = true) ∧
      ∀ condition, c.Writes withProjection condition → condition = c.predicate.text ∧ trim condition ≠ "" := by
  have hblank (e : Expr) : e.isEmpty = true ↔ trim e.text = "" := by
    rw [trim_eq_empty_iff, Expr.isBlank_text_iff]
  refine ⟨hblank, fun c withProjection => ?_⟩
  have hsome : (∃ e ∈ c.filters, e.isEmpty = false) ↔ c.predicate.isEmpty = false := by
    rw [← Bool.not_eq_true, Clauses.isEmpty_predicate_iff]
    push Not
    simp only [ne_eq, Bool.not_eq_true]
  rw [← Clauses.isEmpty_predicate_iff, hsome]
  cases hc : c.predicate.isEmpty with
  | true =>
    have hnone := Clauses.writesNone_of_empty hc withProjection
    refine ⟨iff_of_false (fun ⟨condition, h⟩ => hnone.not_writes h) (by decide), iff_of_true hnone rfl, ?_⟩
    exact fun condition h => absurd h hnone.not_writes
  | false =>
    have hwrites := Clauses.writes_of_live hc withProjection
    refine ⟨iff_of_true ⟨_, hwrites⟩ rfl, iff_of_false (fun h => h.not_writes hwrites) (by decide), ?_⟩
    intro condition h
    rw [h.unique hwrites, ne_eq, ← hblank, hc]
    exact ⟨rfl, by decide⟩

/-- Blank filters around one that is not, in an update without an entity type. -/
theorem condition_among_blank_filters :
    let c : Clauses := { entityType := "", filters := [.raw " ", .and [.raw "a is 1"], .or []], limit := some 2 }
    c.text false = "where a is 1 limit 2" ∧ trim "a is 1" ≠ "" := by
  intro c
  have hwrites : c.Writes false "a is 1" := by
    rw [Clauses.Writes]
    decide +kernel
  exact ⟨by decide +kernel, ((emptiness_is_blankness.2 c false).2.2 "a is 1" hwrites).2⟩

end EntityQuery
