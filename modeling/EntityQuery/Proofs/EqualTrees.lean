import EntityQuery.Expr.Equality
import EntityQuery.Proofs.Spellings

/-!
# Equal trees and their texts

Expressions, clauses and inserts that are equal are identical up to numbers that they spell otherwise, and they are
written alike only if they are identical (`equal_trees_and_their_texts`).

What equal expressions have in common is carried through the trees by `Twins`: brackets in the same places, and texts that
are told apart with whatever follows them. Empty terms do not show, but they hold no values, so they are identical anyway.
-/

namespace EntityQuery

open EntityQuery.Expr

variable {P Q : Prop}

/-! ## The values of a tree -/

mutual

/-- The values of an expression, in the order in which they are written. -/
def Expr.valuesOf : Expr → List Value
  | .compare _ _ v => [v]
  | .related _ _ condition => condition.valuesOf
  | .member _ _ members => members.valuesOf
  | .and ts => Expr.valuesOfEach ts
  | .or ts => Expr.valuesOfEach ts
  | .not t => t.valuesOf
  | .raw _ => []

def Expr.valuesOfEach : List Expr → List Value
  | [] => []
  | t :: ts => t.valuesOf ++ Expr.valuesOfEach ts

def Members.valuesOf : Members → List Value
  | .values vs => vs
  | .subquery clauses => clauses.valuesOf

def Clauses.valuesOf : Clauses → List Value
  | ⟨_, filters, _, _, _, _, _⟩ => Expr.valuesOfEach filters

end

/-- The values are equal one by one, and with them everything is the same. -/
structure EqualUpTo (P : Prop) (vs ws : List Value) : Prop where
  equal : List.Forall₂ (fun v w => (v == w) = true) vs ws
  same : vs = ws → P

namespace EqualUpTo

variable {vs ws vs' ws' : List Value}

theorem nil (hP : P) : EqualUpTo P [] [] := ⟨.nil, fun _ => hP⟩

theorem imp (h : EqualUpTo P vs ws) (hPQ : P → Q) : EqualUpTo Q vs ws := ⟨h.equal, fun hsame => hPQ (h.same hsame)⟩

theorem append (h : EqualUpTo P vs ws) (h' : EqualUpTo Q vs' ws') : EqualUpTo (P ∧ Q) (vs ++ vs') (ws ++ ws') := by
  refine ⟨List.rel_append h.equal h'.equal, fun hsame => ?_⟩
  obtain ⟨hfirst, hrest⟩ := List.append_inj hsame h.equal.length_eq
  exact ⟨h.same hfirst, h'.same hrest⟩

theorem spelled (h : EqualUpTo P vs ws) : List.Forall₂ (fun v w => v = w ∨ v.SpelledApart w) vs ws :=
  h.equal.imp fun _ _ => Value.eq_or_spelledApart_of_beq

end EqualUpTo

/-! ## Equal trees -/

namespace Expr

/-- Expressions that are equal: they have brackets in the same places, empty ones are the same, and they are the same if
their texts are, or their values. -/
structure Twins (e e' : Expr) : Prop where
  brackets : SameBrackets e e'
  empty : e.isEmpty = true → e = e'
  told : Told (e = e') e.text.toList e'.text.toList
  values : EqualUpTo (e = e') e.valuesOf e'.valuesOf

variable {e e' t u : Expr} {ts us : List Expr} {c : Connective}

namespace Twins

theorem of_isAtomic (he : e.isAtomic = true) (he' : e'.isAtomic = true)
    (htold : Told (e = e') e.text.toList e'.text.toList) (hvalues : EqualUpTo (e = e') e.valuesOf e'.valuesOf) :
    Twins e e' where
  brackets := .of_isAtomic he he'
  empty hempty := by
    rw [(plain_of_isAtomic he).1] at hempty
    cases hempty
  told := htold
  values := hvalues

theorem compare (path : Path) (op : Comparison) {v w : Value} (h : (v == w) = true) :
    Twins (compare path op v) (compare path op w) := by
  refine .of_isAtomic rfl rfl ?_ ⟨.cons h .nil, fun hsame => ?_⟩
  · rw [toList_compare, toList_compare]
    exact ((told_operand op h).written _ _).imp (congrArg _)
  · rw [(List.cons.inj hsame).1]

theorem related (path : Path) (op : Relationship) (h : Twins e e') : Twins (related path op e) (related path op e') := by
  refine .of_isAtomic rfl rfl ?_ (h.values.imp (congrArg _))
  rw [toList_related, toList_related]
  exact (h.told.brackets.written _ _).imp (congrArg _)

theorem member (path : Path) (op : Inclusion) {m n : Members} (htold : Told (m = n) m.text.toList n.text.toList)
    (hvalues : EqualUpTo (m = n) m.valuesOf n.valuesOf) : Twins (member path op m) (member path op n) := by
  refine .of_isAtomic rfl rfl ?_ (hvalues.imp (congrArg _))
  rw [toList_member, toList_member]
  exact (htold.brackets.written _ _).imp (congrArg _)

theorem not (h : Twins t u) : Twins (not t) (not u) where
  brackets := ⟨rfl, rfl, fun _ => rfl⟩
  empty := nofun
  told := by
    rw [toList_not, toList_not, h.brackets.underNot]
    split
    · exact ((h.told.brackets.prepend [' ']).prepend _).imp (congrArg _)
    · exact ((h.told.prepend [' ']).prepend _).imp (congrArg _)
  values := h.values.imp (congrArg _)

theorem raw (text : String) : Twins (raw text) (raw text) := ⟨.refl _, fun _ => rfl, .of_holds rfl _, .nil rfl⟩

theorem part (c : Connective) (h : Twins t u) : Told (t = u) (part c t) (part c u) := by
  rw [Expr.part, Expr.part, h.brackets.inside c]
  split
  · exact h.told.brackets
  · exact h.told

theorem live (h : List.Forall₂ Twins ts us) : List.Forall₂ Twins (live ts) (live us) :=
  forall₂_live (fun htu => htu.brackets.isEmpty) h

theorem eq_of_live_eq (h : List.Forall₂ Twins ts us) (hlive : Expr.live ts = Expr.live us) : ts = us := by
  induction h with
  | nil => rfl
  | @cons t u ts us htu _ ih =>
    rw [live_cons, live_cons, htu.brackets.isEmpty] at hlive
    by_cases hempty : u.isEmpty
    · rw [if_pos hempty, if_pos hempty] at hlive
      rw [htu.empty (htu.brackets.isEmpty.trans hempty), ih hlive]
    · rw [if_neg hempty, if_neg hempty] at hlive
      obtain ⟨rfl, hrest⟩ := List.cons.inj hlive
      rw [ih hrest]

theorem valuesOfEach (h : List.Forall₂ Twins ts us) :
    EqualUpTo (ts = us) (valuesOfEach ts) (Expr.valuesOfEach us) := by
  induction h with
  | nil => exact .nil rfl
  | cons htu _ ih =>
    rw [Expr.valuesOfEach, Expr.valuesOfEach]
    refine (htu.values.append ih).imp ?_
    rintro ⟨rfl, rfl⟩
    rfl

theorem told_group (c : Connective) (h : List.Forall₂ Twins ts us) :
    Told (ts = us) (ofConnective c ts).text.toList (ofConnective c us).text.toList := by
  have hlive := live h
  have hlength := hlive.length_eq
  rcases live_cases ts with hnone | ⟨t, hone, -, -⟩ | hmany
  · rw [hnone] at hlength
    have hnone' : Expr.live us = [] := List.length_eq_zero_iff.1 hlength.symm
    rw [text_of_live_nil c hnone, text_of_live_nil c hnone']
    exact .of_holds (eq_of_live_eq h (hnone.trans hnone'.symm)) []
  · rw [hone] at hlength hlive
    obtain ⟨u, hone'⟩ := List.length_eq_one_iff.1 hlength.symm
    rw [hone'] at hlive
    rw [text_of_live_one c hone, text_of_live_one c hone']
    obtain ⟨htu, -⟩ := List.forall₂_cons.1 hlive
    refine htu.told.imp ?_
    rintro rfl
    exact eq_of_live_eq h (hone.trans hone'.symm)
  · have hparts : Told (ts = us) (parts c (Expr.live ts)) (parts c (Expr.live us)) :=
      (Told.intercalate _ _ (by decide) (hlive.imp fun _ _ htu => htu.part c)).imp (eq_of_live_eq h)
    rw [toList_join c hmany, toList_join c (hlength ▸ hmany)]
    cases c with
    | and => exact hparts
    | or => exact hparts.brackets

theorem group (c : Connective) (h : List.Forall₂ Twins ts us) : Twins (ofConnective c ts) (ofConnective c us) where
  brackets := .group c ((live h).imp fun _ _ htu => htu.brackets.underNot)
  empty hempty := by
    rw [isEmpty_ofConnective, ← live_eq_nil_iff] at hempty
    have hempty' : Expr.live us = [] := List.length_eq_zero_iff.1 (by rw [← (live h).length_eq, hempty]; rfl)
    rw [eq_of_live_eq h (hempty.trans hempty'.symm)]
  told := (told_group c h).imp (congrArg _)
  values := by
    cases c with
    | and => exact (valuesOfEach h).imp (congrArg _)
    | or => exact (valuesOfEach h).imp (congrArg _)

end Twins

end Expr

/-! ## Equal clauses -/

theorem Clauses.conditionParts_inj {p q : String} (h : conditionParts p = conditionParts q) : p = q := by
  rw [conditionParts, conditionParts] at h
  split at h
  next hp =>
    split at h
    next hq => rw [String.isEmpty_iff.1 hp, String.isEmpty_iff.1 hq]
    · cases h
  · split at h
    · cases h
    · simpa using h

theorem Clauses.filter_conditionParts (p : String) :
    (conditionParts p).filter (!·.isEmpty) = conditionParts p := by
  rw [conditionParts]
  split
  · rfl
  next hp =>
    rw [Bool.not_eq_true] at hp
    simp [hp]

theorem told_joinParts (front back : List String) {p q : String} (hempty : p = "" ↔ q = "")
    (h : Told (p = q) p.toList q.toList) :
    Told (p = q) (joinParts (front ++ (Clauses.conditionParts p ++ back))).toList
      (joinParts (front ++ (Clauses.conditionParts q ++ back))).toList := by
  have hsame (parts : List String) :
      List.Forall₂ (fun p q : String => Told (p = q) p.toList q.toList) parts parts :=
    List.forall₂_same.2 fun part _ => .of_holds rfl part.toList
  have hcondition : List.Forall₂ (fun p q : String => Told (p = q) p.toList q.toList) (Clauses.conditionParts p)
      (Clauses.conditionParts q) := by
    simp only [Clauses.conditionParts, String.isEmpty_iff, hempty]
    split
    · exact .nil
    · exact .cons (.of_holds rfl _) (.cons h .nil)
  have hparts := Told.intercalate ' ' [] (by decide) (List.rel_append
    (hsame (front.filter (!·.isEmpty))) (List.rel_append hcondition (hsame (back.filter (!·.isEmpty)))))
  simp only [joinParts, List.filter_append, Clauses.filter_conditionParts, String.toList_intercalate]
  refine hparts.imp fun hlists => ?_
  exact Clauses.conditionParts_inj (List.append_cancel_right (List.append_cancel_left hlists))

theorem told_clauses (clauses : Clauses) {fs gs : List Expr} (h : List.Forall₂ Twins fs gs) (withProjection : Bool) :
    Told (fs = gs) (Clauses.text withProjection { clauses with filters := fs }).toList
      (Clauses.text withProjection { clauses with filters := gs }).toList := by
  have hgroup := Twins.told_group .and h
  have hempty : (all fs).text = "" ↔ (all gs).text = "" := by
    rw [text_all_eq_empty_iff, text_all_eq_empty_iff, ← List.length_eq_zero_iff, (Twins.live h).length_eq,
      List.length_eq_zero_iff]
  have hcondition : Told ((all fs).text = (all gs).text) (all fs).text.toList (all gs).text.toList := by
    rw [text_all, text_all]
    exact hgroup.imp fun hsame => by rw [hsame]
  rw [Clauses.text_eq_parts, Clauses.text_eq_parts]
  refine (told_joinParts _ _ hempty hcondition).imp fun htext => ?_
  rw [text_all, text_all] at htext
  exact hgroup.holds (congrArg String.toList htext)

/-! ## From the comparison to the texts -/

theorem forall₂_of_valuesEqual {vs ws : List Value} (h : valuesEqual vs ws = true) :
    List.Forall₂ (fun v w => (v == w) = true) vs ws := by
  induction vs generalizing ws with
  | nil =>
    cases ws with
    | nil => exact .nil
    | cons w ws => cases h
  | cons v vs ih =>
    cases ws with
    | nil => cases h
    | cons w ws =>
      obtain ⟨hfirst, hrest⟩ := Bool.and_eq_true_iff.1 h
      exact .cons hfirst (ih hrest)

namespace Expr

mutual

theorem twins_of_equal (e e' : Expr) (h : e.equal e' = true) : Twins e e' := by
  -- structural in the first tree; trees of two constructors are never equal
  cases e with
  | compare p o v =>
    cases e' with
    | compare q u w =>
      simp only [Expr.equal, Bool.and_eq_true, beq_iff_eq] at h
      obtain ⟨⟨rfl, rfl⟩, hvalue⟩ := h
      exact .compare p o hvalue
    | _ => simp [Expr.equal] at h
  | related p o c =>
    cases e' with
    | related q u d =>
      simp only [Expr.equal, Bool.and_eq_true, beq_iff_eq] at h
      obtain ⟨⟨rfl, rfl⟩, hcondition⟩ := h
      exact .related p o (twins_of_equal c d hcondition)
    | _ => simp [Expr.equal] at h
  | member p o m =>
    cases e' with
    | member q u n =>
      simp only [Expr.equal, Bool.and_eq_true, beq_iff_eq] at h
      obtain ⟨⟨rfl, rfl⟩, hmembers⟩ := h
      obtain ⟨htold, hvalues⟩ := told_of_equal m n hmembers
      exact .member p o htold hvalues
    | _ => simp [Expr.equal] at h
  | and ts =>
    cases e' with
    | and us =>
      rw [Expr.equal] at h
      exact .group .and (twins_of_equalEach ts us h)
    | _ => simp [Expr.equal] at h
  | or ts =>
    cases e' with
    | or us =>
      rw [Expr.equal] at h
      exact .group .or (twins_of_equalEach ts us h)
    | _ => simp [Expr.equal] at h
  | not t =>
    cases e' with
    | not u =>
      rw [Expr.equal] at h
      exact .not (twins_of_equal t u h)
    | _ => simp [Expr.equal] at h
  | raw text =>
    cases e' with
    | raw text' =>
      rw [Expr.equal, beq_iff_eq] at h
      rw [h]
      exact .raw text'
    | _ => simp [Expr.equal] at h
termination_by structural e

theorem twins_of_equalEach (ts us : List Expr) (h : equalEach ts us = true) : List.Forall₂ Twins ts us := by
  cases ts with
  | nil =>
    cases us with
    | nil => exact .nil
    | cons u us => simp [equalEach] at h
  | cons t ts =>
    cases us with
    | nil => simp [equalEach] at h
    | cons u us =>
      simp only [equalEach, Bool.and_eq_true] at h
      exact .cons (twins_of_equal t u h.1) (twins_of_equalEach ts us h.2)
termination_by structural ts

theorem told_of_equal (m n : Members) (h : m.equal n = true) :
    Told (m = n) m.text.toList n.text.toList ∧ EqualUpTo (m = n) m.valuesOf n.valuesOf := by
  cases m with
  | values vs =>
    cases n with
    | values ws =>
      rw [Members.equal] at h
      have hvalues := forall₂_of_valuesEqual h
      exact ⟨(told_valuesText hvalues).imp (congrArg _), hvalues, congrArg _⟩
    | subquery d => simp [Members.equal] at h
  | subquery c =>
    cases n with
    | values ws => simp [Members.equal] at h
    | subquery d =>
      rw [Members.equal] at h
      obtain ⟨htold, hvalues⟩ := clauses_of_equal c d h
      exact ⟨(htold true).imp (congrArg _), hvalues.imp (congrArg _)⟩
termination_by structural m

theorem clauses_of_equal (c d : Clauses) (h : c.equal d = true) :
    (∀ withProjection, Told (c = d) (c.text withProjection).toList (d.text withProjection).toList) ∧
      EqualUpTo (c = d) c.valuesOf d.valuesOf := by
  obtain ⟨entityType, fs, projection, groupBy, sort, offset, limit⟩ := c
  obtain ⟨entityType', gs, projection', groupBy', sort', offset', limit'⟩ := d
  simp only [Clauses.equal, Bool.and_eq_true, beq_iff_eq] at h
  obtain ⟨⟨⟨⟨⟨⟨rfl, hfilters⟩, rfl⟩, rfl⟩, rfl⟩, rfl⟩, rfl⟩ := h
  have htwins := twins_of_equalEach fs gs hfilters
  refine ⟨fun withProjection => ?_, (Twins.valuesOfEach htwins).imp ?_⟩
  · refine (told_clauses ⟨entityType, [], projection, groupBy, sort, offset, limit⟩ htwins withProjection).imp ?_
    rintro rfl
    rfl
  · rintro rfl
    rfl
termination_by structural c

end

end Expr

/-! ## Equal inserts -/

def FieldValues.valuesOf (a : FieldValues) : List Value := a.fields.map (·.2)

theorem told_fieldValues {a b : FieldValues} (h : (a == b) = true) : Told (a = b) a.text.toList b.text.toList := by
  have hpairs := FieldValues.forall₂_of_beq h
  obtain ⟨fs⟩ := a
  obtain ⟨gs⟩ := b
  have hassignment {p q : String × Value} (hpq : p.1 = q.1 ∧ (p.2 == q.2) = true) :
      Told (p = q) (FieldValues.assignmentText p).toList (FieldValues.assignmentText q).toList := by
    rw [FieldValues.toList_assignmentText, FieldValues.toList_assignmentText, hpq.1]
    exact (((told_encode hpq.2).prepend ['=']).prepend _).imp (Prod.ext hpq.1)
  rw [FieldValues.text_eq, FieldValues.text_eq, String.toList_intercalate, String.toList_intercalate, List.map_map,
    List.map_map]
  exact (Told.intercalate _ _ (by decide) (hpairs.imp fun _ _ => hassignment)).imp (congrArg FieldValues.mk)

theorem equalUpTo_fieldValues {a b : FieldValues} (h : (a == b) = true) :
    EqualUpTo (a = b) a.valuesOf b.valuesOf := by
  have hpairs := FieldValues.forall₂_of_beq h
  have hfields : EqualUpTo (a.fields = b.fields) a.valuesOf b.valuesOf := by
    rw [FieldValues.valuesOf, FieldValues.valuesOf]
    generalize a.fields = fs at hpairs
    generalize b.fields = gs at hpairs
    induction hpairs with
    | nil => exact .nil rfl
    | @cons p q fs gs hpq _ ih =>
      have hfirst : EqualUpTo (p = q) [p.2] [q.2] :=
        ⟨.cons hpq.2 .nil, fun hsame => Prod.ext hpq.1 (List.cons.inj hsame).1⟩
      refine (hfirst.append ih).imp ?_
      rintro ⟨rfl, rfl⟩
      rfl
  exact hfields.imp (congrArg FieldValues.mk)

/-! ## The main statement -/

/-- Two texts and the values that are written in them. The values in one place are the same or spelled apart; the texts
differ just if some of them are spelled apart; and if the texts do not differ, neither does what they were made from. -/
structure DifferInSpelling (P : Prop) (text text' : String) (vs ws : List Value) : Prop where
  spelled : List.Forall₂ (fun v w => v = w ∨ v.SpelledApart w) vs ws
  text_ne_iff : text ≠ text' ↔ ∃ p ∈ vs.zip ws, p.1.SpelledApart p.2
  same_iff : P ↔ text = text'

theorem differInSpelling {text text' : String} {vs ws : List Value} (htold : Told P text.toList text'.toList)
    (hvalues : EqualUpTo P vs ws) (htext : P → text = text') (hsame : P → vs = ws) :
    DifferInSpelling P text text' vs ws := by
  have hspelled := hvalues.spelled
  have hiff : P ↔ text = text' := ⟨htext, fun h => htold.holds (congrArg String.toList h)⟩
  refine ⟨hspelled, ?_, hiff⟩
  rw [ne_eq, ← hiff]
  constructor
  · intro hother
    by_contra hnone
    push Not at hnone
    refine hother (hvalues.same ?_)
    rw [← List.forall₂_eq_eq_eq]
    refine List.forall₂_iff_zip.2 ⟨hspelled.length_eq, fun {v w} hvw => ?_⟩
    exact ((List.forall₂_iff_zip.1 hspelled).2 hvw).resolve_right (hnone (v, w) hvw)
  · rintro ⟨⟨v, w⟩, hvw, hapart⟩ hP
    have hpairs : List.Forall₂ (· = ·) vs ws := by
      rw [List.forall₂_eq_eq_eq]
      exact hsame hP
    exact hapart.encode_ne (congrArg _ ((List.forall₂_iff_zip.1 hpairs).2 hvw))

theorem Expr.differInSpelling_of_beq {e e' : Expr} (h : (e == e') = true) :
    DifferInSpelling (e = e') e.text e'.text e.valuesOf e'.valuesOf := by
  have htwins := twins_of_equal e e' h
  exact differInSpelling htwins.told htwins.values (congrArg _) (congrArg _)

theorem Clauses.differInSpelling_of_beq {c d : Clauses} (h : (c == d) = true) (withProjection : Bool) :
    DifferInSpelling (c = d) (c.text withProjection) (d.text withProjection) c.valuesOf d.valuesOf := by
  obtain ⟨htold, hvalues⟩ := clauses_of_equal c d h
  exact differInSpelling (htold withProjection) hvalues (congrArg _) (congrArg _)

theorem Insert.differInSpelling_of_equal {σ : Type} {s t : Insert σ} (h : s.equal t = true) :
    s.entityType = t.entityType ∧
      DifferInSpelling (s.values = t.values) s.text t.text s.values.valuesOf t.values.valuesOf := by
  obtain ⟨htype, hvalues⟩ := Bool.and_eq_true_iff.1 h
  have htype : s.entityType = t.entityType := LawfulBEq.eq_of_beq htype
  refine ⟨htype, differInSpelling ?_ (equalUpTo_fieldValues hvalues) (fun hsame => ?_) (congrArg _)⟩
  · rw [Insert.toList_text, Insert.toList_text, htype]
    exact ((told_fieldValues hvalues).brackets.prepend _).prepend _
  · rw [Insert.text, Insert.text, htype, hsame]

/-- **Equal trees render equally unless they spell a number otherwise.** Expressions, clauses and inserts that are equal
hold the same values up to the spelling of numbers, and they have the same text just if no number in the same place is
spelled otherwise. Then they are identical: there is nothing else that `==` does not see and texts show. -/
theorem equal_trees_and_their_texts {σ : Type} (e e' : Expr) (c d : Clauses) (s t : Insert σ) :
    ((e == e') = true → DifferInSpelling (e = e') e.text e'.text e.valuesOf e'.valuesOf) ∧
    ((c == d) = true → ∀ withProjection,
      DifferInSpelling (c = d) (c.text withProjection) (d.text withProjection) c.valuesOf d.valuesOf) ∧
    (s.equal t = true → s.entityType = t.entityType ∧
      DifferInSpelling (s.values = t.values) s.text t.text s.values.valuesOf t.values.valuesOf) ∧
    ∀ v w : Value, v.SpelledApart w → (v == w) = true ∧ Literal.encode v ≠ Literal.encode w :=
  ⟨Expr.differInSpelling_of_beq, Clauses.differInSpelling_of_beq, Insert.differInSpelling_of_equal,
    fun _ _ h => ⟨h.beq, h.encode_ne⟩⟩

/-- Bids of zeros with opposite signs, alone and deep in a condition beside decimals in a subquery. -/
theorem bids_that_differ_in_spelling :
    let zero (negative : Bool) : Value := .float (.finite negative .zero)
    let half : Value := .decimal { coefficient := 5, scale := 1 }
    let half' : Value := .decimal { coefficient := 50, scale := 2 }
    let comparison (v : Value) : Expr := .compare ⟨["bid"]⟩ .equal v
    let clauses (v w : Value) : Clauses :=
      { entityType := "Project"
        filters := [.raw "open", .related ⟨["tasks"]⟩ .any (.not (comparison v)),
          .member ⟨["id"]⟩ .isIn (.subquery { entityType := "Task", filters := [comparison w] })] }
    let insert (v : Value) : Insert Empty := { entityType := "Task", values := ⟨[("bid", v)]⟩ }
    ((comparison (zero false) == comparison (zero true)) = true ∧
      (comparison (zero false)).text ≠ (comparison (zero true)).text) ∧
    ((clauses (zero false) half == clauses (zero true) half') = true ∧
      (clauses (zero false) half).text true ≠ (clauses (zero true) half').text true) ∧
    (insert half).equal (insert half') = true ∧ (insert half).text ≠ (insert half').text := by
  intro zero half half' comparison clauses insert
  obtain ⟨hcomparisons, hclauses, hinserts, -⟩ := equal_trees_and_their_texts (comparison (zero false))
    (comparison (zero true)) (clauses (zero false) half) (clauses (zero true) half') (insert half) (insert half')
  have hzeros : (zero false).SpelledApart (zero true) := .zeros false
  have hhalves : half.SpelledApart half' := .decimals (by decide) (by decide)
  have hcomparison : (comparison (zero false) == comparison (zero true)) = true := by decide +kernel
  have hclause : (clauses (zero false) half == clauses (zero true) half') = true := by decide +kernel
  have hinsert : (insert half).equal (insert half') = true := by decide +kernel
  refine ⟨⟨hcomparison, ?_⟩, ⟨hclause, ?_⟩, hinsert, ?_⟩
  · exact (hcomparisons hcomparison).text_ne_iff.2 ⟨_, List.mem_cons_self, hzeros⟩
  · exact (hclauses hclause true).text_ne_iff.2 ⟨_, List.mem_cons_self, hzeros⟩
  · exact (hinserts hinsert).2.text_ne_iff.2 ⟨_, List.mem_cons_self, hhalves⟩

/-- Expressions, clauses and inserts that are equal and have different texts. -/
theorem equal_trees_that_render_apart :
    let comparison (v : Value) : Expr := .compare ⟨["bid"]⟩ .equal v
    let clauses (v : Value) : Clauses := { entityType := "Task", filters := [comparison v] }
    let insert (v : Value) : Insert Empty := { entityType := "Task", values := ⟨[("bid", v)]⟩ }
    let zero (negative : Bool) : Value := .float (.finite negative .zero)
    let decimalZero (negative : Bool) : Value := .decimal { negative, coefficient := 0, scale := 2 }
    let half : Value := .decimal { coefficient := 5, scale := 1 }
    let half' : Value := .decimal { coefficient := 50, scale := 2 }
    ((comparison half == comparison half') = true ∧
      (comparison half).text = "bid is 0.5" ∧ (comparison half').text = "bid is 0.50") ∧
    ((clauses (zero false) == clauses (zero true)) = true ∧
      (clauses (zero false)).text false = "Task where bid is 0.0" ∧
      (clauses (zero true)).text false = "Task where bid is -0.0") ∧
    ((insert half).equal (insert half') = true ∧
      (insert half).text = "create Task(bid=0.5)" ∧ (insert half').text = "create Task(bid=0.50)") ∧
    ((insert (decimalZero false)).equal (insert (decimalZero true)) = true ∧
      (insert (decimalZero false)).text = "create Task(bid=0.00)" ∧
      (insert (decimalZero true)).text = "create Task(bid=-0.00)") := by
  decide +kernel

end EntityQuery
