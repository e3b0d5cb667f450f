import EntityQuery.Proofs.Criteria
import EntityQuery.Proofs.Rendering

/-!
# Conjunctions inside conjunctions

How criteria are grouped into conjunctions does not show in the text: a list of expressions nested in any way with
`all` has the text of the flat list, and criteria that are spread over several calls of a statement give the text
of one call.

Two lists of expressions are `AlikeInAll` if they can stand for each other among the terms of any conjunction. Lists
that are alike can be put side by side (`AlikeInAll.append`), and a group can be replaced by its terms
(`alikeInAll_group`); the rest follows from these two rules by induction on the nesting or on the calls.
-/

namespace EntityQuery

/-! ## Lists joined inside lists -/

section

variable {sep : List Char} {xs ys : List (List Char)}

theorem intercalate_append (hxs : xs ≠ []) (hys : ys ≠ []) :
    sep.intercalate (xs ++ ys) = sep.intercalate xs ++ (sep ++ sep.intercalate ys) := by
  induction xs with
  | nil => exact absurd rfl hxs
  | cons x xs ih =>
    cases xs with
    | nil => rw [List.singleton_append, List.intercalate_cons_of_ne_nil hys, List.intercalate_singleton,
        List.append_assoc]
    | cons y xs =>
      have hrest := ih (List.cons_ne_nil y xs)
      rw [List.cons_append] at hrest
      rw [List.cons_append, List.cons_append, List.intercalate_cons_cons, List.intercalate_cons_cons, hrest]
      simp only [List.append_assoc]

theorem intercalate_around (sep : List Char) (before after : List (List Char)) :
    ∃ pre post, ∀ part, sep.intercalate (before ++ part :: after) = pre ++ (part ++ post) := by
  obtain ⟨post, hpost⟩ : ∃ post, ∀ part, sep.intercalate (part :: after) = part ++ post := by
    cases after with
    | nil => exact ⟨[], by simp⟩
    | cons a after => exact ⟨sep ++ sep.intercalate (a :: after), by simp [List.intercalate_cons_cons]⟩
  cases before with
  | nil => exact ⟨[], post, hpost⟩
  | cons b before =>
    refine ⟨sep.intercalate (b :: before) ++ sep, post, fun part => ?_⟩
    rw [intercalate_append (List.cons_ne_nil b before) (List.cons_ne_nil part after), hpost, List.append_assoc]

theorem intercalate_flatten (before : List (List Char)) (hxs : xs ≠ []) (after : List (List Char)) :
    sep.intercalate (before ++ (sep.intercalate xs :: after)) = sep.intercalate (before ++ (xs ++ after)) := by
  have hhead : sep.intercalate (sep.intercalate xs :: after) = sep.intercalate (xs ++ after) := by
    cases after with
    | nil => rw [List.intercalate_singleton, List.append_nil]
    | cons a after =>
      rw [List.intercalate_cons_cons, intercalate_append hxs (List.cons_ne_nil a after), List.append_assoc]
  cases before with
  | nil => exact hhead
  | cons b before =>
    have hmany : xs ++ after ≠ [] := by simp [hxs]
    rw [intercalate_append (List.cons_ne_nil b before) (List.cons_ne_nil _ after),
      intercalate_append (List.cons_ne_nil b before) hmany, hhead]

end

namespace Expr

variable {e : Expr} {ts us vs ts' us' : List Expr}

/-- The lists can stand for each other among the terms of a conjunction. -/
def AlikeInAll (ts us : List Expr) : Prop :=
  ∀ before after, (all (before ++ (ts ++ after))).text = (all (before ++ (us ++ after))).text

namespace AlikeInAll

theorem refl (ts : List Expr) : AlikeInAll ts ts := fun _ _ => rfl

theorem symm (h : AlikeInAll ts us) : AlikeInAll us ts := fun before after => (h before after).symm

theorem trans (h : AlikeInAll ts us) (h' : AlikeInAll us vs) : AlikeInAll ts vs :=
  fun before after => (h before after).trans (h' before after)

theorem append (h : AlikeInAll ts us) (h' : AlikeInAll ts' us') : AlikeInAll (ts ++ ts') (us ++ us') := by
  intro before after
  have hleft := h before (ts' ++ after)
  have hright := h' (before ++ us) after
  simp only [List.append_assoc] at hleft hright ⊢
  exact hleft.trans hright

theorem text_all (h : AlikeInAll ts us) : (all ts).text = (all us).text := by
  simpa using h [] []

end AlikeInAll

theorem text_all_of_live_eq (h : live ts = live us) : (all ts).text = (all us).text := by
  rw [all, all, text_group, text_group, h]

theorem alikeInAll_of_live_eq (h : live ts = live us) : AlikeInAll ts us := by
  intro before after
  apply text_all_of_live_eq
  simp only [live_append, h]

/-- A conjunction is its parts with the connective between them, unless its only term would be bracketed beside
others. -/
theorem toList_text_all (hne : live ts ≠ []) (h : ∀ t, live ts = [t] → t.bracketsIn .and = false) :
    (all ts).text.toList = parts .and (live ts) := by
  rw [Expr.text_all]
  match hcase : live ts with
  | [] => exact absurd hcase hne
  | [t] =>
    have htext := text_of_live_one .and hcase
    rw [ofConnective] at htext
    rw [htext, parts, List.map_singleton, List.intercalate_singleton, part, h t hcase]
    rfl
  | t :: u :: us =>
    have htext := toList_join .and (show 1 < (live ts).length by simp [hcase])
    rwa [hcase] at htext

theorem live_of_atomic (hatomic : ∀ t ∈ ts, t.isAtomic = true) : live ts = ts :=
  live_eq_self fun t ht => (plain_of_isAtomic (hatomic t ht)).1

theorem isEmpty_all_of_atomic (hatomic : ∀ t ∈ ts, t.isAtomic = true) (hne : ts ≠ []) : (all ts).isEmpty = false := by
  rwa [all, isEmpty_group_eq_false_iff, live_of_atomic hatomic]

theorem text_all_of_atomic (hatomic : ∀ t ∈ ts, t.isAtomic = true) (hne : ts ≠ []) :
    (all ts).text = " and ".intercalate (ts.map text) := by
  have hlive := live_of_atomic hatomic
  rw [← String.toList_inj, toList_text_all (by rwa [hlive]), hlive, String.toList_intercalate, parts, List.map_map]
  · congr 1
    refine List.map_congr_left fun t ht => ?_
    rw [part, (plain_of_isAtomic (hatomic t ht)).2.2]
    rfl
  · intro t ht
    rw [hlive] at ht
    exact (plain_of_isAtomic (hatomic t (by simp [ht]))).2.2 .and

theorem all_of_many (h : 1 < (live ts).length) :
    live [all ts] = [and (live ts)] ∧ part .and (and (live ts)) = parts .and (live ts) := by
  have hsame : all ts = and (live ts) := group_of_many .and h
  have hlive : (and (live ts)).isEmpty = false := by
    refine (isEmpty_ofConnective_eq_false_iff .and).2 ?_
    rw [live_live]
    rintro hnil
    simp [hnil] at h
  refine ⟨?_, ?_⟩
  · rw [hsame, live_cons, hlive]
    rfl
  · have hmany : 1 < (live (live ts)).length := by
      rwa [live_live]
    have htext := toList_join .and hmany
    rwa [live_live] at htext

theorem alikeInAll_many (h : 1 < (live ts).length) : AlikeInAll [all ts] ts := by
  intro before after
  obtain ⟨hlive, hpart⟩ := all_of_many h
  have hne : live ts ≠ [] := by
    rintro hnil
    simp [hnil] at h
  have hgrouped : live (before ++ ([all ts] ++ after)) = live before ++ ([and (live ts)] ++ live after) := by
    rw [live_append, live_append, hlive]
  have hflat : live (before ++ (ts ++ after)) = live before ++ (live ts ++ live after) := by
    rw [live_append, live_append]
  rw [← String.toList_inj, toList_text_all, toList_text_all, hgrouped, hflat]
  · simp only [parts, List.map_append, List.map_singleton, hpart]
    exact intercalate_flatten _ (by simpa using hne) _
  · simp [hflat, hne]
  · -- more than one term is left, whatever stands around them
    intro t hone
    have hlength := congrArg List.length (hflat.symm.trans hone)
    simp only [List.length_append, List.length_singleton] at hlength
    omega
  · simp only [hgrouped]
    simp
  · intro t hone
    have hmem : and (live ts) ∈ [t] := by
      rw [← hone, hgrouped]
      simp
    rw [← List.mem_singleton.1 hmem]
    rfl

/-- **A conjunction among the terms of a conjunction can be replaced by its terms.** -/
theorem alikeInAll_group (ts : List Expr) : AlikeInAll [all ts] ts := by
  match hcase : live ts with
  | [] =>
    refine alikeInAll_of_live_eq ?_
    have hempty : (all ts).isEmpty = true := by
      rw [all, isEmpty_group, ← live_eq_nil_iff, hcase]
    rw [hcase, live_cons, hempty]
    rfl
  | [t] =>
    refine alikeInAll_of_live_eq ?_
    have hsame : all ts = t := by
      simp [all, group, hcase]
    have hlive : t.isEmpty = false := (mem_live.1 (show t ∈ live ts by simp [hcase])).2
    rw [hcase, hsame, live_cons, hlive]
    rfl
  | t :: u :: rest => exact alikeInAll_many (by simp [hcase])

theorem alikeInAll_groups (tss : List (List Expr)) : AlikeInAll (tss.map all) tss.flatten := by
  induction tss with
  | nil => exact .refl []
  | cons ts tss ih => exact (alikeInAll_group ts).append ih

/-! ## Nesting -/

/-- The expression is made of the listed ones, in order, by any use of `all` (`&` is `all` of two terms) and of the
combinator over criteria. -/
inductive Nested : List Expr → Expr → Prop
  | term (e : Expr) : Nested [e] e
  | all {groups : List (List Expr × Expr)} : (∀ g ∈ groups, Nested g.1 g.2) →
      Nested (groups.flatMap Prod.fst) (all (groups.map Prod.snd))
  | allOf {groups : List (List Expr × Expr)} {items : List Criterion} {e : Expr} :
      (∀ g ∈ groups, Nested g.1 g.2) → Criterion.exprs items = .ok (groups.map Prod.snd) →
      allOf items = .ok e → Nested (groups.flatMap Prod.fst) e

theorem alikeInAll_members {groups : List (List Expr × Expr)} (h : ∀ g ∈ groups, AlikeInAll [g.2] g.1) :
    AlikeInAll (groups.map Prod.snd) (groups.flatMap Prod.fst) := by
  induction groups with
  | nil => exact .refl []
  | cons g groups ih => exact (h g (by simp)).append (ih fun g hg => h g (by simp [hg]))

theorem Nested.alikeInAll (h : Nested ts e) : AlikeInAll [e] ts := by
  induction h with
  | term e => exact .refl [e]
  | all _ ih => exact (alikeInAll_group _).trans (alikeInAll_members ih)
  | allOf _ hexprs he ih =>
    rw [Expr.allOf, hexprs] at he
    cases he
    exact (alikeInAll_group _).trans (alikeInAll_members ih)

end Expr

/-! ## Calls -/

namespace Criterion

variable {items more : List Criterion} {es : List Expr}

theorem exists_of_exprs_append (h : exprs (items ++ more) = .ok es) :
    ∃ xs ys, exprs items = .ok xs ∧ exprs more = .ok ys ∧ es = xs ++ ys := by
  rw [exprs_append] at h
  cases hitems : exprs items with
  | error err =>
    rw [hitems] at h
    cases h
  | ok xs =>
    cases hmore : exprs more with
    | error err =>
      rw [hitems, hmore] at h
      cases h
    | ok ys =>
      rw [hitems, hmore] at h
      exact ⟨xs, ys, rfl, rfl, (Except.ok.inj h).symm⟩

end Criterion

/-- A call that adds conditions to a statement: criteria, all of which must hold, or one expression. -/
inductive FilterCall where
  | criteria (items : List Criterion)
  | expr (e : Expr)

namespace FilterCall

def items : FilterCall → List Criterion
  | criteria items => items
  | expr e => [.expr e]

variable {ε σ : Type}

def apply (s : RowStatement ε σ) : FilterCall → Except Error (RowStatement ε σ)
  | criteria items => s.filterBy items
  | expr e => .ok (s.filter e)

end FilterCall

namespace RowStatement

open EntityQuery.Expr

variable {ε σ : Type} {s : RowStatement ε σ} {call : FilterCall} {calls : List FilterCall} {es fs : List Expr}

def conjoin (s : RowStatement ε σ) (es : List Expr) : RowStatement ε σ :=
  { s with clauses := { s.clauses with filters := s.clauses.filters ++ es } }

theorem conjoin_nil (s : RowStatement ε σ) : s.conjoin [] = s := by
  obtain ⟨⟨⟩⟩ := s
  simp [conjoin]

theorem filter_eq_conjoin (s : RowStatement ε σ) (e : Expr) : s.filter e = s.conjoin (live [e]) := by
  rw [filter, live_cons]
  split
  · exact (conjoin_nil s).symm
  · rfl

theorem conjoin_conjoin (s : RowStatement ε σ) (es fs : List Expr) :
    (s.conjoin es).conjoin fs = s.conjoin (es ++ fs) := by
  simp [conjoin]

theorem apply_call (h : Criterion.exprs call.items = .ok es) :
    call.apply s = .ok (s.conjoin (live [all es])) := by
  rw [← filter_eq_conjoin]
  cases call with
  | criteria items =>
    rw [FilterCall.apply, filterBy, allOf, show Criterion.exprs items = .ok es from h]
    rfl
  | expr e =>
    obtain rfl : [e] = es := Except.ok.inj h
    have hsame : live [all [e]] = live [e] := by
      cases hlive : e.isEmpty with
      | false => simp [all, group, live_cons, hlive]
      | true => simp [all, group, live_cons, hlive, ofConnective, isEmpty, allEmpty]
    rw [FilterCall.apply, filter_eq_conjoin, filter_eq_conjoin, hsame]

theorem apply_calls (h : Criterion.exprs (calls.flatMap FilterCall.items) = .ok es) :
    ∃ groups : List (List Expr), groups.flatten = es ∧
      calls.foldlM FilterCall.apply s = .ok (s.conjoin (live (groups.map all))) := by
  induction calls generalizing s es with
  | nil =>
    obtain rfl : [] = es := Except.ok.inj h
    exact ⟨[], rfl, congrArg Except.ok (conjoin_nil s).symm⟩
  | cons call calls ih =>
    obtain ⟨xs, ys, hcall, hcalls, rfl⟩ := Criterion.exists_of_exprs_append h
    obtain ⟨groups, rfl, hrun⟩ := ih (s := s.conjoin (live [all xs])) hcalls
    refine ⟨xs :: groups, rfl, ?_⟩
    rw [List.foldlM_cons, apply_call hcall]
    refine hrun.trans ?_
    rw [conjoin_conjoin, ← live_append]
    rfl

theorem text_conjoin (h : AlikeInAll es fs) (withProjection : Bool) :
    (s.conjoin es).clauses.text withProjection = (s.conjoin fs).clauses.text withProjection := by
  have hpredicate : (s.conjoin es).clauses.predicate.text = (s.conjoin fs).clauses.predicate.text := by
    have hwhole := h s.clauses.filters []
    rwa [List.append_nil, List.append_nil] at hwhole
  rw [Clauses.text_eq, Clauses.text_eq, hpredicate]
  rfl

/-- Run one after the other, the calls give the text that one call with all their criteria gives. -/
def SpreadsAlike (text : RowStatement ε σ → String) (calls : List FilterCall) (s : RowStatement ε σ) : Prop :=
  ∃ t u, calls.foldlM FilterCall.apply s = .ok t ∧ s.filterBy (calls.flatMap FilterCall.items) = .ok u ∧
    text t = text u

theorem spreadsAlike {text : RowStatement ε σ → String}
    (htext : ∀ {es fs : List Expr}, AlikeInAll es fs → text (s.conjoin es) = text (s.conjoin fs))
    (h : Criterion.exprs (calls.flatMap FilterCall.items) = .ok es) : SpreadsAlike text calls s := by
  obtain ⟨groups, rfl, hrun⟩ := apply_calls (s := s) h
  have hone : (FilterCall.criteria (calls.flatMap FilterCall.items)).apply s =
      .ok (s.conjoin (live [all groups.flatten])) := apply_call h
  refine ⟨_, _, hrun, hone, htext ?_⟩
  have hlive : ∀ ts : List Expr, AlikeInAll (live ts) ts := fun ts => alikeInAll_of_live_eq (live_live ts)
  have hspread : AlikeInAll (live (groups.map all)) groups.flatten :=
    (hlive _).trans (alikeInAll_groups groups)
  have hwhole : AlikeInAll (live [all groups.flatten]) groups.flatten :=
    (hlive _).trans (alikeInAll_group _)
  exact hspread.trans hwhole.symm

end RowStatement

/-! ## The main statement -/

open EntityQuery.Expr in
/-- **Grouping by conjunction does not show.** A group of nested groups has the text of the flat group, and however
criteria are spread over calls, the statement has the text that one call gives it. -/
theorem conjunctions_read_flat :
    (∀ groups : List (List Expr × Expr), (∀ g ∈ groups, Nested g.1 g.2) →
      (all (groups.map Prod.snd)).text = (all (groups.flatMap Prod.fst)).text ∧
      ∀ items, Criterion.exprs items = .ok (groups.map Prod.snd) →
        (allOf items).map text = .ok (all (groups.flatMap Prod.fst)).text) ∧
    ∀ (σ : Type) (calls : List FilterCall) (es : List Expr),
      Criterion.exprs (calls.flatMap FilterCall.items) = .ok es →
      (∀ s : Select σ, s.SpreadsAlike Select.text calls) ∧ (∀ s : Update σ, s.SpreadsAlike Update.text calls) ∧
        ∀ s : Delete σ, s.SpreadsAlike Delete.text calls := by
  refine ⟨fun groups h => ?_, fun σ calls es h => ⟨fun s => ?_, fun s => ?_, fun s => ?_⟩⟩
  · have htext := (alikeInAll_members fun g hg => (h g hg).alikeInAll).text_all
    refine ⟨htext, fun items hitems => ?_⟩
    rw [allOf, hitems, ← htext]
    rfl
  · exact RowStatement.spreadsAlike (fun halike => RowStatement.text_conjoin halike true) h
  · refine RowStatement.spreadsAlike (fun halike => ?_) h
    rw [Update.text, Update.text, Update.queryText, Update.queryText, RowStatement.text_conjoin halike]
    rfl
  · refine RowStatement.spreadsAlike (fun halike => ?_) h
    rw [Delete.text, Delete.text, RowStatement.text_conjoin halike]

open EntityQuery.Expr in
/-- Query text with a connective and blank text, grouped by two and by one, and spread over two calls. -/
theorem raw_texts_grouped_and_spread :
    (all [all [raw "a is 1", raw "b is 2 or c is 3"], raw " "]).text =
      (all [raw "a is 1", raw "b is 2 or c is 3", raw " "]).text ∧
    (Select.ofType "Task" : Select Unit).SpreadsAlike Select.text
      [.criteria [.raw "a is 1", .skip], .expr (raw "b is 2 or c is 3")] := by
  have hterms : ∀ g ∈ [([raw "a is 1"], raw "a is 1"), ([raw "b is 2 or c is 3"], raw "b is 2 or c is 3")],
      Nested g.1 g.2 := by
    simp only [List.forall_mem_cons]
    exact ⟨.term _, .term _, List.forall_mem_nil _⟩
  have hgroups : ∀ g ∈ [([raw "a is 1", raw "b is 2 or c is 3"], all [raw "a is 1", raw "b is 2 or c is 3"]),
      ([raw " "], raw " ")], Nested g.1 g.2 := by
    simp only [List.forall_mem_cons]
    exact ⟨.all hterms, .term _, List.forall_mem_nil _⟩
  exact ⟨(conjunctions_read_flat.1 _ hgroups).1, (conjunctions_read_flat.2 Unit _ _ rfl).1 _⟩

end EntityQuery
