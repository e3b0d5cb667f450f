import EntityQuery.Proofs.Contexts
import Mathlib.Data.List.Forall2
import Mathlib.Logic.Relation

/-!
# Empty terms do not show

An optional condition that is left out leaves an empty expression behind: blank text, or a group of nothing. Put among
the terms of a group anywhere in a tree, it changes neither the text of the tree nor that of its negation
(`AddsEmptyTerm`). Put among criteria, it does not even change what is made of them (`Criterion.AddsIdle`).

A group writes its live terms only, counts them only and asks them only about brackets, so a group with one more empty
term is written, joined and negated as before (`ShownAlike`). A place in a tree passes that on to the whole
(`ShownAlike.fill`).
-/

namespace EntityQuery

open Relation

namespace Expr

/-! ## Expressions that are written alike in every place -/

/-- Wherever the expressions stand, the same is written of both. -/
structure ShownAlike (e e' : Expr) : Prop where
  text : e.text = e'.text
  brackets : SameBrackets e e'

variable {e e' t : Expr} {ts us before after : List Expr} {c : Connective}

namespace ShownAlike

theorem refl (e : Expr) : ShownAlike e e := ⟨rfl, .refl e⟩

theorem of_isAtomic (he : e.isAtomic = true) (he' : e'.isAtomic = true) (htext : e.text = e'.text) : ShownAlike e e' :=
  ⟨htext, .of_isAtomic he he'⟩

theorem group (c : Connective) (h : List.Forall₂ ShownAlike (live ts) (live us)) :
    ShownAlike (ofConnective c ts) (ofConnective c us) := by
  refine ⟨?_, .group c (h.imp fun _ _ htu => htu.brackets.underNot)⟩
  have hterms : List.Forall₂ (· = ·) ((live ts).map (term c)) ((live us).map (term c)) := by
    rw [List.forall₂_map_left_iff, List.forall₂_map_right_iff]
    refine h.imp fun t u htu => ?_
    rw [term, term, htu.text, htu.brackets.inside c]
  rw [List.forall₂_eq_eq_eq] at hterms
  rw [text_ofConnective, text_ofConnective, hterms]

theorem live_around (h : ShownAlike e e') (before after : List Expr) :
    List.Forall₂ ShownAlike (live (before ++ e :: after)) (live (before ++ e' :: after)) := by
  have hsame (ts : List Expr) : List.Forall₂ ShownAlike ts ts := List.forall₂_same.2 fun t _ => refl t
  exact forall₂_live (fun htu => htu.brackets.isEmpty) (List.rel_append (hsame before) (.cons h (hsame after)))

theorem fill (f : Frame) (h : ShownAlike e e') : ShownAlike (f.fill e) (f.fill e') := by
  cases f with
  | group c before after => exact .group c (h.live_around before after)
  | related path op => exact .of_isAtomic rfl rfl (by simp only [Frame.fill, Expr.text, h.text])
  | not =>
    refine ⟨?_, rfl, rfl, fun _ => rfl⟩
    simp only [Frame.fill, Expr.text, h.text, h.brackets.underNot]
  | subquery path op clauses after =>
    have hfilters := ShownAlike.group .and (h.live_around clauses.filters after)
    have hpredicate : ((all (clauses.filters ++ e :: after)).text) = (all (clauses.filters ++ e' :: after)).text := by
      rw [text_all, text_all]
      exact hfilters.text
    have hclauses : Clauses.text true { clauses with filters := clauses.filters ++ e :: after } =
        Clauses.text true { clauses with filters := clauses.filters ++ e' :: after } := by
      rw [Clauses.text_eq, Clauses.text_eq, Clauses.predicate, Clauses.predicate, hpredicate]
    exact .of_isAtomic rfl rfl (by simp only [Frame.fill, Expr.text, Members.text, hclauses])

theorem fillAll (frames : List Frame) (h : ShownAlike e e') :
    ShownAlike (fillAll frames e) (fillAll frames e') := by
  induction frames with
  | nil => exact h
  | cons f frames ih => exact ih.fill f

theorem negate (h : ShownAlike e e') (hnot : ∀ t, e ≠ not t) (hnot' : ∀ t, e' ≠ not t) :
    ShownAlike e.negate e'.negate := by
  cases hempty : e.isEmpty with
  | true => rwa [negate_of_isEmpty hempty, negate_of_isEmpty (h.brackets.isEmpty ▸ hempty)]
  | false =>
    rw [negate_of_live hempty hnot, negate_of_live (h.brackets.isEmpty ▸ hempty) hnot']
    exact h.fill .not

end ShownAlike

theorem Frame.fill_ne_not (f : Frame) (hnot : f ≠ .not) (e : Expr) : ∀ t, f.fill e ≠ Expr.not t := by
  intro t
  cases f with
  | related path op => exact Expr.noConfusion
  | subquery path op clauses after => exact Expr.noConfusion
  | group c before after => exact ofConnective_ne_not c _ t
  | not => exact absurd rfl hnot

/-! ## One more empty term -/

/-- Somewhere in the tree, a group has one more term, and that is empty. -/
inductive AddsEmptyTerm : Expr → Expr → Prop
  | mk (frames : List Frame) (c : Connective) (before after : List Expr) {t : Expr} : t.isEmpty = true →
      AddsEmptyTerm (fillAll frames (ofConnective c (before ++ after)))
        (fillAll frames (ofConnective c (before ++ t :: after)))

theorem live_insert (ht : t.isEmpty = true) : live (before ++ t :: after) = live (before ++ after) := by
  rw [live_append, live_append, live_cons, ht, if_pos rfl]

theorem shownAlike_insert (c : Connective) (before after : List Expr) (ht : t.isEmpty = true) :
    ShownAlike (ofConnective c (before ++ after)) (ofConnective c (before ++ t :: after)) := by
  refine .group c ?_
  rw [live_insert ht]
  exact List.forall₂_same.2 fun t _ => .refl t

/-- **An empty term in a group does not show**, neither in the tree nor in its negation. -/
theorem AddsEmptyTerm.shownAlike (h : AddsEmptyTerm e e') :
    ShownAlike e e' ∧ ShownAlike e.negate e'.negate := by
  obtain ⟨frames, c, before, after, ht⟩ := h
  have hgroup := shownAlike_insert c before after ht
  refine ⟨hgroup.fillAll frames, ?_⟩
  cases frames with
  | nil => exact hgroup.negate (ofConnective_ne_not c _) (ofConnective_ne_not c _)
  | cons f frames =>
    have hinner := hgroup.fillAll frames
    by_cases hnot : f = .not
    · -- the negation of a negation is what stands under it
      subst hnot
      exact hinner
    · exact (hinner.fill f).negate (f.fill_ne_not hnot _) (f.fill_ne_not hnot _)

theorem text_of_added (h : ReflTransGen AddsEmptyTerm e e') : e'.text = e.text ∧ e'.negate.text = e.negate.text := by
  induction h with
  | refl => exact ⟨rfl, rfl⟩
  | tail _ hstep ih =>
    obtain ⟨halike, hnegations⟩ := hstep.shownAlike
    exact ⟨halike.text.symm.trans ih.1, hnegations.text.symm.trans ih.2⟩

theorem group_live (c : Connective) (ts : List Expr) : group c (live ts) = group c ts := by
  rw [group, group, live_live]

end Expr

open EntityQuery.Expr

/-! ## One more criterion that says nothing -/

namespace Criterion

/-- The criterion places no constraint. -/
inductive IsIdle : Criterion → Prop
  | skip : IsIdle skip
  | raw {text : String} : Text.isBlank text = true → IsIdle (raw text)
  | expr {e : Expr} : e.isEmpty = true → IsIdle (expr e)
  | fields : IsIdle (fields [])

/-- There is one more criterion, and it places no constraint. -/
inductive AddsIdle : List Criterion → List Criterion → Prop
  | mk (before after : List Criterion) {item : Criterion} : item.IsIdle →
      AddsIdle (before ++ after) (before ++ item :: after)

variable {items more : List Criterion}

theorem IsIdle.expand_eq {item : Criterion} (h : item.IsIdle) : ∃ ts, item.expand = .ok ts ∧ live ts = [] := by
  cases h with
  | skip => exact ⟨[], rfl, rfl⟩
  | fields => exact ⟨[], rfl, rfl⟩
  | @raw text hblank => exact ⟨[.raw text], rfl, by simp [live_cons, isEmpty, hblank]⟩
  | @expr e hempty => exact ⟨[e], rfl, by simp [live_cons, hempty]⟩

theorem AddsIdle.live_exprs (h : AddsIdle items more) : (exprs more).map live = (exprs items).map live := by
  obtain ⟨before, after, hidle⟩ := h
  obtain ⟨ts, hexpand, hnone⟩ := hidle.expand_eq
  rw [exprs_append, exprs_append, exprs_cons, hexpand]
  cases exprs before with
  | error err => rfl
  | ok es =>
    cases exprs after with
    | error err => rfl
    | ok fs =>
      have hlive : live (es ++ (ts ++ fs)) = live (es ++ fs) := by
        rw [live_append, live_append, live_append, hnone, List.nil_append]
      exact congrArg Except.ok hlive

theorem live_exprs_of_added (h : ReflTransGen AddsIdle items more) :
    (exprs more).map live = (exprs items).map live := by
  induction h with
  | refl => rfl
  | tail _ hstep ih => exact hstep.live_exprs.trans ih

theorem map_group_congr (c : Connective) (h : (exprs more).map live = (exprs items).map live) :
    (exprs more).map (group c) = (exprs items).map (group c) := by
  have hlive (x : Except Error (List Expr)) : x.map (group c) = (x.map live).map (group c) := by
    cases x with
    | error err => rfl
    | ok ts => exact congrArg Except.ok (group_live c ts).symm
  rw [hlive, h, ← hlive]

end Criterion

/-! ## The main statement -/

/-- **Empty terms are invisible.** Trees that differ in empty terms of groups only, in whatever places, have the same
text, and so have their negations. Criteria that differ only in some that place no constraint give the same expressions,
relations and statements, or the same error. -/
theorem empty_terms_do_not_show :
    (∀ e e' : Expr, ReflTransGen AddsEmptyTerm e e' → e'.text = e.text ∧ e'.negate.text = e.negate.text) ∧
    ∀ items more : List Criterion, ReflTransGen Criterion.AddsIdle items more →
      allOf more = allOf items ∧ anyOf more = anyOf items ∧ noneOf more = noneOf items ∧
      (∀ (path : Path) (op : Relationship), path.relate op more = path.relate op items) ∧
      ∀ (ε σ : Type) (s : RowStatement ε σ), s.filterBy more = s.filterBy items := by
  refine ⟨fun e e' h => text_of_added h, fun items more h => ?_⟩
  have hlive := Criterion.live_exprs_of_added h
  have hall : allOf more = allOf items := Criterion.map_group_congr .and hlive
  have hany : anyOf more = anyOf items := Criterion.map_group_congr .or hlive
  refine ⟨hall, hany, congrArg (Except.map negate) hany, fun path op => ?_, fun ε σ s => ?_⟩
  · exact congrArg (Except.map (related path op)) hall
  · exact congrArg (Except.map s.filter) hall

/-- Blank text and groups of nothing, put in one after the other: in a disjunction under a relation, in the conjunction
around the relation, and among criteria. -/
theorem blank_terms_left_out :
    let condition (ts : List Expr) : Expr := related ⟨["tasks"]⟩ .any (or ([raw "a is 1", raw "b is 2"] ++ ts))
    (and [condition [], raw "c is 3"]).text = "tasks any ((a is 1 or b is 2)) and c is 3" ∧
    (and [condition [and [raw "\t"]], or [], raw "c is 3"]).negate.text =
      "not (tasks any ((a is 1 or b is 2)) and c is 3)" ∧
    allOf [.skip, .raw "a is 1", .raw " "] = allOf [.raw "a is 1"] := by
  intro condition
  obtain ⟨htrees, hcriteria⟩ := empty_terms_do_not_show
  have hinner : AddsEmptyTerm (and [condition [], raw "c is 3"]) (and [condition [and [raw "\t"]], raw "c is 3"]) :=
    .mk [.group .and [] [raw "c is 3"], .related ⟨["tasks"]⟩ .any] .or [raw "a is 1", raw "b is 2"] [] rfl
  have houter : AddsEmptyTerm (and [condition [and [raw "\t"]], raw "c is 3"])
      (and [condition [and [raw "\t"]], or [], raw "c is 3"]) :=
    .mk [] .and [condition [and [raw "\t"]]] [raw "c is 3"] rfl
  have hskip : Criterion.AddsIdle [.raw "a is 1"] [.skip, .raw "a is 1"] := .mk [] [.raw "a is 1"] .skip
  have hblank : Criterion.AddsIdle [.skip, .raw "a is 1"] [.skip, .raw "a is 1", .raw " "] :=
    .mk [.skip, .raw "a is 1"] [] (.raw rfl)
  refine ⟨by decide +kernel, ?_, (hcriteria _ _ ((ReflTransGen.single hskip).tail hblank)).1⟩
  rw [(htrees _ _ ((ReflTransGen.single hinner).tail houter)).2]
  decide +kernel

end EntityQuery
