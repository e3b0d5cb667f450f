import EntityQuery.Criterion
import EntityQuery.Proofs.Assignments

/-!
# Membership tests

A membership test is made of one subquery, of entities or of other values (`MemberTest`), and of nothing else: operands
of two kinds are mixed, and there is no test against two subqueries (`member_eq_ok_iff`, `member_eq_error_iff`). What is
made keeps every operand in its place.

Its text keeps them too. Between the brackets the members are written with commas between them, and `parts` cuts a text
at the commas outside literals. A literal stays in one part, whatever is in the text that it quotes (`onePart_encode`),
so the parts are the members (`parts_valuesText`).
-/

namespace EntityQuery

/-! ## Commas outside literals -/

namespace RawText

open Position

variable {cs : List Char}

def Position.isOutside : Position → Bool
  | plain _ => true
  | literal _ _ => false

/-- The text cut at the commas outside literals; the scan begins at the given position. -/
def partsFrom : Position → List Char → List (List Char)
  | _, [] => [[]]
  | p, c :: cs =>
    if p.isOutside = true ∧ c = ',' then [] :: partsFrom p cs
    else (partsFrom (p.step c) cs).modifyHead (c :: ·)

def parts (cs : List Char) : List (List Char) := partsFrom .start cs

/-- The text stays in one part, whatever follows it. -/
def OnePart (cs : List Char) : Prop := ∀ rest, parts (cs ++ rest) = (parts rest).modifyHead (cs ++ ·)

theorem partsFrom_literal (depth : Nat) (escaped : Bool) (c : Char) (cs : List Char) :
    partsFrom (literal depth escaped) (c :: cs) =
      (partsFrom ((literal depth escaped).step c) cs).modifyHead (c :: ·) := by
  rw [partsFrom, if_neg fun h => by cases h.1]

theorem onePart_of_isBare (h : IsBare cs) : OnePart cs := by
  intro rest
  induction cs with
  | nil => cases hrest : parts rest <;> simp [hrest]
  | cons c cs ih =>
    obtain ⟨⟨hquote, hopen, hcomma⟩, hcs⟩ := List.forall_mem_cons.1 h
    have hstep : Position.start.step c = .start := by
      -- a closing bracket without an opening one is passed over
      rw [start, step, if_neg hquote, if_neg hopen]
      split <;> rfl
    rw [List.cons_append, parts, partsFrom, if_neg fun h => hcomma h.2, hstep]
    change (parts (cs ++ rest)).modifyHead _ = _
    rw [ih hcs, List.modifyHead_modifyHead]
    rfl

theorem partsFrom_escape (depth : Nat) (text rest : List Char) :
    partsFrom (literal depth false) (Literal.escape Literal.isQuoteSpecial text ++ '"' :: rest) =
      (partsFrom (plain depth) rest).modifyHead (Literal.escape Literal.isQuoteSpecial text ++ '"' :: ·) := by
  induction text with
  | nil => exact partsFrom_literal depth false '"' rest
  | cons c text ih =>
    cases hspecial : Literal.isQuoteSpecial c with
    | true =>
      -- two steps: the backslash, and the character that it keeps from closing the literal
      have hslash : (literal depth false).step '\\' = literal depth true := rfl
      have hmarked : (literal depth true).step c = literal depth false := rfl
      simp only [Literal.escape_cons, hspecial, if_true, List.cons_append, List.nil_append, partsFrom_literal, hslash,
        hmarked, ih, List.modifyHead_modifyHead]
      rfl
    | false =>
      have hplain : c ≠ '\\' ∧ c ≠ '"' := by simpa [Literal.isQuoteSpecial] using hspecial
      have hstep : (literal depth false).step c = literal depth false := by
        rw [step, if_neg hplain.1, if_neg hplain.2]
      simp only [Literal.escape_cons, hspecial, Bool.false_eq_true, if_false, List.cons_append, List.nil_append,
        partsFrom_literal, hstep, ih, List.modifyHead_modifyHead]
      rfl

theorem onePart_quote (s : String) : OnePart (Literal.quote s).toList := by
  intro rest
  have hopen : Position.start.step '"' = literal 0 false := rfl
  have hnot : ¬ (Position.start.isOutside = true ∧ '"' = ',') := fun h => absurd h.2 (by decide)
  rw [Literal.toList_quote, List.cons_append, List.append_assoc, parts, partsFrom, if_neg hnot, hopen]
  change (partsFrom _ (_ ++ '"' :: rest)).modifyHead _ = _
  rw [partsFrom_escape, List.modifyHead_modifyHead]
  change (parts rest).modifyHead _ = _
  congr 1
  funext part
  simp

theorem onePart_encode (v : Value) : OnePart (Literal.encode v).toList := by
  rcases encode_quoted_or_bare v with ⟨s, hquoted⟩ | hbare
  · rw [hquoted]
    exact onePart_quote s
  · exact onePart_of_isBare hbare

theorem parts_comma (cs : List Char) : parts (',' :: cs) = [] :: parts cs := by
  rw [parts, partsFrom, if_pos ⟨rfl, rfl⟩]
  rfl

theorem parts_blank (cs : List Char) : parts (' ' :: cs) = (parts cs).modifyHead (' ' :: ·) := by
  have hnot : ¬ (Position.start.isOutside = true ∧ ' ' = ',') := fun h => absurd h.2 (by decide)
  rw [parts, partsFrom, if_neg hnot]
  rfl

theorem parts_intercalate {texts : List (List Char)} (hne : texts ≠ [])
    (h : ∀ text ∈ texts, OnePart text ∧ Text.trimFront text = text) :
    (parts ([',', ' '].intercalate texts)).map Text.trimFront = texts := by
  induction texts with
  | nil => exact absurd rfl hne
  | cons text rest ih =>
    obtain ⟨⟨hone, hfront⟩, hrest⟩ := List.forall_mem_cons.1 h
    cases rest with
    | nil =>
      have hpart := hone []
      rw [List.append_nil] at hpart
      rw [List.intercalate_singleton, hpart]
      simp [parts, partsFrom, hfront]
    | cons next rest =>
      have hjoined : [',', ' '].intercalate (text :: next :: rest) =
          text ++ ',' :: ' ' :: [',', ' '].intercalate (next :: rest) := by
        simp [List.intercalate_cons_cons]
      have hblank (ps : List (List Char)) : (ps.modifyHead (' ' :: ·)).map Text.trimFront = ps.map Text.trimFront := by
        cases ps with
        | nil => rfl
        | cons part ps => simp [Text.trimFront, show Text.isBlankChar ' ' = true from rfl]
      rw [hjoined, hone, parts_comma, parts_blank, List.modifyHead_cons, List.map_cons, hblank,
        ih (List.cons_ne_nil next rest) hrest, List.append_nil, hfront]

end RawText

open RawText

theorem trimFront_encode (v : Value) : Text.trimFront (Literal.encode v).toList = (Literal.encode v).toList := by
  refine Text.trimFront_eq_self_iff.2 fun c hc => ?_
  obtain ⟨d, hd, hdigit | hmem⟩ := (isLiteral_encode v).head
  · rw [hd] at hc
    cases hc
    exact Text.isBlankChar_of_isDigit hdigit
  · rw [hd] at hc
    cases hc
    have htest : ['"', '-', '.', 'n', 'T', 'F'].all (!Text.isBlankChar ·) = true := by decide
    simpa using List.all_eq_true.1 htest _ hmem

/-- **Between the brackets stand the members**, one in each part; if there is none, an empty text. -/
theorem parts_valuesText (vs : List Value) :
    (parts (valuesText vs).toList).map Text.trimFront =
      if vs = [] then [(Literal.quote "").toList] else vs.map fun v => (Literal.encode v).toList := by
  rw [valuesText]
  cases vs with
  | nil => rfl
  | cons v vs =>
    have hjoined : (", ".intercalate ((v :: vs).map Literal.encode)).toList =
        [',', ' '].intercalate ((v :: vs).map fun v => (Literal.encode v).toList) := by
      rw [String.toList_intercalate, List.map_map]
      rfl
    rw [if_neg (by simp), if_neg (by simp), hjoined, parts_intercalate (by simp)]
    intro text htext
    obtain ⟨v, -, rfl⟩ := List.mem_map.1 htext
    exact ⟨onePart_encode v, trimFront_encode v⟩

/-- A comma in a quoted text is none between members. -/
example : parts (valuesText [.text "a\", (", .null]).toList = ["\"a\\\", (\"".toList, " none".toList] := by decide

/-! ## What a test is made of -/

inductive MemberTest (p : Path) (op : Inclusion) : List Operand → Expr → Prop where
  /-- A subquery fetches what it fetches, or the identifier. -/
  | subquery (c : Clauses) :
      MemberTest p op [.subquery c]
        (.member p op (.subquery { c with projection := if c.projection = [] then ["id"] else c.projection }))
  /-- Entities are told by their identifiers. -/
  | entities {es : List EntityRef} (h : es ≠ []) :
      MemberTest p op (es.map fun e => .value (.entity e))
        (.member ⟨p.segments ++ ["id"]⟩ op (.values (es.map fun e => .ofIdentifier e.id)))
  | values {vs : List Value} (h : ∀ v ∈ vs, v.isEntity = false) :
      MemberTest p op (vs.map .value) (.member p op (.values vs))

namespace Operand

variable {operands : List Operand}

def isSubquery (o : Operand) : Bool := o.subquery?.isSome

theorem eq_map_value (h : operands.filterMap subquery? = []) : operands = (operands.filterMap value?).map value := by
  induction operands with
  | nil => rfl
  | cons o operands ih =>
    cases o with
    | value v => exact congrArg (value v :: ·) (ih h)
    | subquery c => cases h

theorem eq_map_subquery (h : operands.filterMap value? = []) :
    operands = (operands.filterMap subquery?).map subquery := by
  induction operands with
  | nil => rfl
  | cons o operands ih =>
    cases o with
    | value v => cases h
    | subquery c => exact congrArg (subquery c :: ·) (ih h)

@[simp] theorem filterMap_value?_value (vs : List Value) : (vs.map value).filterMap value? = vs := by
  rw [List.filterMap_map]
  exact List.filterMap_some

@[simp] theorem filterMap_subquery?_value (vs : List Value) : (vs.map value).filterMap subquery? = [] := by
  rw [List.filterMap_map]
  exact List.filterMap_eq_nil_iff.2 fun _ _ => rfl

theorem countP_isSubquery (operands : List Operand) :
    operands.countP isSubquery = (operands.filterMap subquery?).length :=
  List.length_filterMap_eq_countP.symm

theorem countP_value (vs : List Value) : (vs.map value).countP isSubquery = 0 := by
  rw [countP_isSubquery, filterMap_subquery?_value, List.length_nil]

theorem exists_value_mem (h : operands.filterMap value? ≠ []) : ∃ v, value v ∈ operands := by
  obtain ⟨v, hv⟩ := List.exists_mem_of_ne_nil _ h
  obtain ⟨o, ho, hov⟩ := List.mem_filterMap.1 hv
  cases o with
  | value w => exact ⟨w, ho⟩
  | subquery c => cases hov

end Operand

section

variable {p : Path} {op : Inclusion} {operands : List Operand} {vs : List Value} {es : List EntityRef} {e : Expr}

theorem map_entity (es : List EntityRef) :
    (es.map fun r => Operand.value (.entity r)) = (es.map Value.entity).map .value := by
  rw [List.map_map]
  rfl

theorem filterMap_entity? (es : List EntityRef) : (es.map Value.entity).filterMap Value.entity? = es := by
  rw [List.filterMap_map]
  exact List.filterMap_some

theorem eq_map_entity (h : ∀ v ∈ vs, v.isEntity = true) : vs = (vs.filterMap Value.entity?).map .entity := by
  induction vs with
  | nil => rfl
  | cons v vs ih =>
    obtain ⟨hv, hvs⟩ := List.forall_mem_cons.1 h
    obtain ⟨r, rfl⟩ := Value.isEntity_iff.1 hv
    exact congrArg (Value.entity r :: ·) (ih hvs)

theorem filterMap_entity?_eq_nil_iff : vs.filterMap Value.entity? = [] ↔ ∀ v ∈ vs, v.isEntity = false := by
  rw [List.filterMap_eq_nil_iff]
  simp [Value.isEntity]

theorem asSubquery_eq (c : Clauses) :
    c.asSubquery = { c with projection := if c.projection = [] then ["id"] else c.projection } := by
  obtain ⟨⟩ := c
  simp only [Clauses.asSubquery, List.isEmpty_iff]
  split <;> rfl

/-! ## Operands of one kind -/

theorem member_values (p : Path) (op : Inclusion) (vs : List Value) :
    p.member op (vs.map .value) =
      if vs.filterMap Value.entity? = [] then .ok (.member p op (.values vs))
      else if (vs.filterMap Value.entity?).length = vs.length then
        .ok (.member p.identifier op (.values ((vs.filterMap Value.entity?).map fun r => .ofIdentifier r.id)))
      else .error .mixedMembership := by
  simp only [Path.member, Operand.filterMap_value?_value, Operand.filterMap_subquery?_value, List.isEmpty_iff]

/-- Operands of different kinds: values beside one subquery, or entities beside other values. -/
def IsMixed (operands : List Operand) : Prop :=
  (operands.countP Operand.isSubquery = 1 ∧ ∃ v, .value v ∈ operands) ∨
    (operands.countP Operand.isSubquery = 0 ∧ (∃ r, .value (.entity r) ∈ operands) ∧
      ∃ v, .value v ∈ operands ∧ v.isEntity = false)

namespace MemberTest

theorem countP_le (h : MemberTest p op operands e) : operands.countP Operand.isSubquery ≤ 1 := by
  cases h with
  | subquery c => exact le_refl 1
  | entities hne =>
    rw [map_entity, Operand.countP_value]
    exact Nat.zero_le 1
  | values hvalues =>
    rw [Operand.countP_value]
    exact Nat.zero_le 1

theorem not_isMixed (h : MemberTest p op operands e) : ¬ IsMixed operands := by
  cases h with
  | subquery c =>
    rintro (⟨-, v, hv⟩ | ⟨-, ⟨r, hr⟩, -⟩)
    · simp at hv
    · simp at hr
  | entities hne =>
    rintro (⟨hone, -⟩ | ⟨-, -, v, hv, hother⟩)
    · rw [map_entity, Operand.countP_value] at hone
      cases hone
    · obtain ⟨r, -, hr⟩ := List.mem_map.1 hv
      cases hr
      cases hother
  | values hvalues =>
    rintro (⟨hone, -⟩ | ⟨-, ⟨r, hr⟩, -⟩)
    · rw [Operand.countP_value] at hone
      cases hone
    · obtain ⟨v, hv, hentity⟩ := List.mem_map.1 hr
      cases hentity
      cases hvalues _ hv

theorem member_eq (h : MemberTest p op operands e) : p.member op operands = .ok e := by
  cases h with
  | subquery c =>
    rw [← asSubquery_eq]
    rfl
  | entities hne =>
    have hidentifier : p.identifier = ⟨p.segments ++ ["id"]⟩ := congrArg Path.mk (Path.segments_identifier p)
    rw [map_entity, member_values, filterMap_entity?, if_neg hne, if_pos (by rw [List.length_map]), hidentifier]
  | values hvalues => rw [member_values, if_pos (filterMap_entity?_eq_nil_iff.2 hvalues)]

end MemberTest

theorem member_cases (p : Path) (op : Inclusion) (operands : List Operand) :
    (∃ e, MemberTest p op operands e) ∨ (IsMixed operands ∧ p.member op operands = .error .mixedMembership) ∨
      (2 ≤ operands.countP Operand.isSubquery ∧ p.member op operands = .error .multipleSubqueries) := by
  have hcount := Operand.countP_isSubquery operands
  match hsubqueries : operands.filterMap Operand.subquery? with
  | [] =>
    have hoperands := Operand.eq_map_value hsubqueries
    generalize operands.filterMap Operand.value? = vs at hoperands
    subst hoperands
    -- values alone: all of them entities, none of them, or some
    rw [member_values]
    by_cases hnone : vs.filterMap Value.entity? = []
    · exact .inl ⟨_, .values (filterMap_entity?_eq_nil_iff.1 hnone)⟩
    by_cases hall : (vs.filterMap Value.entity?).length = vs.length
    · have hentities : ∀ v ∈ vs, v.isEntity = true := List.filterMap_length_eq_length.1 hall
      rw [eq_map_entity hentities, ← map_entity]
      exact .inl ⟨_, .entities hnone⟩
    · have hother : ∃ v ∈ vs, v.isEntity = false := by simpa [Value.isEntity] using hall
      obtain ⟨v, hv, hvother⟩ := hother
      obtain ⟨r, hr⟩ := List.exists_mem_of_ne_nil _ hnone
      obtain ⟨w, hw, hwr⟩ := List.mem_filterMap.1 hr
      obtain rfl : w = .entity r := by
        cases w <;> cases hwr
        rfl
      rw [if_neg hnone, if_neg hall]
      refine .inr (.inl ⟨.inr ⟨Operand.countP_value vs, ⟨r, ?_⟩, v, ?_, hvother⟩, rfl⟩)
      · exact List.mem_map_of_mem hw
      · exact List.mem_map_of_mem hv
  | [c] =>
    rw [hsubqueries] at hcount
    by_cases hvalues : operands.filterMap Operand.value? = []
    · have hoperands := Operand.eq_map_subquery hvalues
      rw [hsubqueries] at hoperands
      rw [hoperands]
      exact .inl ⟨_, .subquery c⟩
    · refine .inr (.inl ⟨.inl ⟨hcount, Operand.exists_value_mem hvalues⟩, ?_⟩)
      simp only [Path.member, hsubqueries, List.isEmpty_iff, hvalues, if_false]
  | c :: d :: cs =>
    rw [hsubqueries, List.length_cons, List.length_cons] at hcount
    refine .inr (.inr ⟨by omega, ?_⟩)
    simp only [Path.member, hsubqueries]

theorem IsMixed.countP_le (h : IsMixed operands) : operands.countP Operand.isSubquery ≤ 1 := by
  rcases h with ⟨hone, -⟩ | ⟨hnone, -⟩ <;> omega

/-- **What is made of operands of one kind, and of no others.** -/
theorem member_eq_ok_iff : p.member op operands = .ok e ↔ MemberTest p op operands e := by
  refine ⟨fun h => ?_, MemberTest.member_eq⟩
  rcases member_cases p op operands with ⟨e', he⟩ | ⟨-, herror⟩ | ⟨-, herror⟩
  · rw [he.member_eq] at h
    cases h
    exact he
  · rw [herror] at h
    cases h
  · rw [herror] at h
    cases h

theorem member_eq_error_iff {err : Error} :
    p.member op operands = .error err ↔ (IsMixed operands ∧ err = .mixedMembership) ∨
      (2 ≤ operands.countP Operand.isSubquery ∧ err = .multipleSubqueries) := by
  rcases member_cases p op operands with ⟨e, he⟩ | ⟨hmixed, herror⟩ | ⟨htwo, herror⟩
  · have hone := he.countP_le
    rw [he.member_eq]
    constructor
    · intro h
      cases h
    · rintro (⟨hmixed, -⟩ | ⟨htwo, -⟩)
      · exact absurd hmixed he.not_isMixed
      · omega
  · have hone := hmixed.countP_le
    rw [herror]
    constructor
    · intro h
      cases h
      exact .inl ⟨hmixed, rfl⟩
    · rintro (⟨-, rfl⟩ | ⟨htwo, -⟩)
      · rfl
      · omega
  · rw [herror]
    constructor
    · intro h
      cases h
      exact .inr ⟨htwo, rfl⟩
    · rintro (⟨hmixed, -⟩ | ⟨-, rfl⟩)
      · have hone := hmixed.countP_le
        omega
      · rfl

/-! ## The main statement -/

/-- **A membership test fails where its operands are of several kinds or hold several subqueries, and keeps every
operand where they are not.** Between the brackets of a test against values stand their literals, between commas that
are outside them. -/
theorem memberships_keep_their_operands (p : Path) (op : Inclusion) (operands : List Operand) :
    (p.member op operands = .error .multipleSubqueries ↔ 2 ≤ operands.countP Operand.isSubquery) ∧
    (p.member op operands = .error .mixedMembership ↔ IsMixed operands) ∧
    (∀ err, p.member op operands = .error err → err = .multipleSubqueries ∨ err = .mixedMembership) ∧
    (∀ e, p.member op operands = .ok e ↔ MemberTest p op operands e) ∧
    ∀ q vs, ∃ content,
      (Expr.member q op (.values vs)).text.toList =
        q.toText.toList ++ ' ' :: (op.keyword.toList ++ ' ' :: '(' :: (content ++ [')'])) ∧
      (parts content).map Text.trimFront =
        if vs = [] then [(Literal.quote "").toList] else vs.map fun v => (Literal.encode v).toList := by
  refine ⟨?_, ?_, fun err herr => ?_, fun e => member_eq_ok_iff, fun q vs => ?_⟩
  · rw [member_eq_error_iff]
    simp
  · rw [member_eq_error_iff]
    simp
  · rcases member_eq_error_iff.1 herr with ⟨-, rfl⟩ | ⟨-, rfl⟩
    · exact .inr rfl
    · exact .inl rfl
  · refine ⟨(valuesText vs).toList, ?_, parts_valuesText vs⟩
    rw [Expr.toList_member, Members.text]

end

end EntityQuery
