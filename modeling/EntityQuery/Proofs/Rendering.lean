import EntityQuery.Statement
import EntityQuery.Proofs.Meaning
import Mathlib.Data.List.Forall2

/-!
# What the renderer writes

What `Expr.text` writes, as equations between lists of characters, which is the form in which texts are scanned and
compared: one equation for each kind of leaf, one for negations, and for groups `toList_join` with its two companions for
groups of no live term and of one. Where brackets stand depends on the live terms of a group alone (`SameBrackets.group`).
An expression that places a constraint has a text that is not blank (`exists_visible`).
Clauses and statements are taken apart into what stands around their conditions and values.
-/

namespace EntityQuery

namespace Expr

def operand (op : Comparison) (value : Value) : String :=
  if op.takesPattern then Literal.encodePattern value else Literal.encode value

theorem toList_compare (path : Path) (op : Comparison) (value : Value) :
    (compare path op value).text.toList =
      path.toText.toList ++ ' ' :: (op.keyword.toList ++ ' ' :: (operand op value).toList) := by
  rw [text, operand]
  simp

theorem toList_enclose (text : String) : (enclose text).toList = '(' :: (text.toList ++ [')']) := by
  simp [enclose]

theorem toList_related (path : Path) (op : Relationship) (condition : Expr) :
    (related path op condition).text.toList =
      path.toText.toList ++ ' ' :: (op.keyword.toList ++ ' ' :: '(' :: (condition.text.toList ++ [')'])) := by
  rw [text]
  simp [toList_enclose]

theorem toList_member (path : Path) (op : Inclusion) (members : Members) :
    (member path op members).text.toList =
      path.toText.toList ++ ' ' :: (op.keyword.toList ++ ' ' :: '(' :: (members.text.toList ++ [')'])) := by
  rw [text]
  simp [toList_enclose]

theorem toList_not (t : Expr) :
    (not t).text.toList = negationKeyword.toList ++ ' ' ::
      (if t.bracketsUnderNot then '(' :: (t.text.toList ++ [')']) else t.text.toList) := by
  rw [text]
  split
  · simp [toList_enclose]
  · simp

def between (c : Connective) : List Char := ' ' :: (c.keyword.toList ++ [' '])

def part (c : Connective) (t : Expr) : List Char :=
  if t.bracketsIn c then '(' :: (t.text.toList ++ [')']) else t.text.toList

def parts (c : Connective) (ts : List Expr) : List Char := (between c).intercalate (ts.map (part c))

variable {e : Expr} {ts : List Expr} {c : Connective}

/-- The leaves that are written as one predicate: all but query text that is taken as it is. -/
def isAtomic : Expr → Bool
  | compare _ _ _ => true
  | related _ _ _ => true
  | member _ _ _ => true
  | _ => false

theorem isLeaf_of_isAtomic (h : e.isAtomic = true) : e.isLeaf = true := by
  cases e with
  | and => cases h
  | or => cases h
  | not => cases h
  | _ => rfl

theorem plain_of_isAtomic (h : e.isAtomic = true) :
    e.isEmpty = false ∧ e.bracketsUnderNot = false ∧ ∀ c, e.bracketsIn c = false := by
  cases e with
  | and => cases h
  | or => cases h
  | raw => cases h
  | _ => exact ⟨rfl, rfl, fun _ => rfl⟩

theorem toList_join (c : Connective) (h : 1 < (live ts).length) :
    (ofConnective c ts).text.toList =
      match c with
      | .and => parts .and (live ts)
      | .or => '(' :: (parts .or (live ts) ++ [')']) := by
  have hbetween : (" " ++ c.keyword ++ " ").toList = between c := by
    simp [between]
  have hpart : ∀ t : Expr, (if (term c t).brackets then enclose (term c t).text
      else (term c t).text).toList = part c t := by
    intro t
    rw [term, part]
    split
    · exact toList_enclose t.text
    · rfl
  have hparts : ((" " ++ c.keyword ++ " ").intercalate
      (((live ts).map (term c)).map fun t => if t.brackets then enclose t.text else t.text)).toList =
        parts c (live ts) := by
    rw [String.toList_intercalate, hbetween, parts, List.map_map, List.map_map]
    congr 1
    exact List.map_congr_left fun t _ => hpart t
  obtain ⟨t, u, us, hcase⟩ := exists_two_live h
  rw [text_ofConnective, hcase]
  rw [hcase] at hparts
  cases c with
  | and => exact hparts
  | or => exact (toList_enclose _).trans (congrArg (fun cs => '(' :: (cs ++ [')'])) hparts)

theorem text_of_live_nil (c : Connective) (h : live ts = []) : (ofConnective c ts).text.toList = [] := by
  rw [text_ofConnective, h]
  rfl

theorem text_of_live_one (c : Connective) {t : Expr} (h : live ts = [t]) :
    (ofConnective c ts).text = t.text := by
  rw [text_ofConnective, h]
  rfl

theorem bracketsUnderNot_of_live_one (c : Connective) {t : Expr} (h : live ts = [t]) :
    (ofConnective c ts).bracketsUnderNot = t.bracketsUnderNot := by
  cases c <;> simp [ofConnective, bracketsUnderNot, liveBracketsUnderNot_eq, h]

theorem bracketsUnderNot_of_many (c : Connective) (h : 1 < (live ts).length) :
    (ofConnective c ts).bracketsUnderNot = decide (c = .and) := by
  obtain ⟨t, u, us, hterms⟩ := exists_two_live h
  cases c <;> simp [ofConnective, bracketsUnderNot, liveBracketsUnderNot_eq, hterms]

theorem forall₂_live {R : Expr → Expr → Prop} {us : List Expr} (hR : ∀ {t u}, R t u → t.isEmpty = u.isEmpty)
    (h : List.Forall₂ R ts us) : List.Forall₂ R (live ts) (live us) := by
  induction h with
  | nil => exact .nil
  | cons htu _ ih =>
    rw [live_cons, live_cons, hR htu]
    split
    · exact ih
    · exact .cons htu ih

/-- The expressions are both empty or both not, and they are bracketed in the same places. -/
structure SameBrackets (e f : Expr) : Prop where
  isEmpty : e.isEmpty = f.isEmpty
  underNot : e.bracketsUnderNot = f.bracketsUnderNot
  inside (c : Connective) : e.bracketsIn c = f.bracketsIn c

namespace SameBrackets

variable {f : Expr} {us : List Expr}

theorem refl (e : Expr) : SameBrackets e e := ⟨rfl, rfl, fun _ => rfl⟩

theorem of_isAtomic (he : e.isAtomic = true) (hf : f.isAtomic = true) : SameBrackets e f := by
  obtain ⟨heempty, hebare, heinside⟩ := plain_of_isAtomic he
  obtain ⟨hfempty, hfbare, hfinside⟩ := plain_of_isAtomic hf
  exact ⟨heempty.trans hfempty.symm, hebare.trans hfbare.symm, fun c => (heinside c).trans (hfinside c).symm⟩

theorem group (c : Connective)
    (h : List.Forall₂ (fun t u => t.bracketsUnderNot = u.bracketsUnderNot) (live ts) (live us)) :
    SameBrackets (ofConnective c ts) (ofConnective c us) := by
  have hlength : (live ts).length = (live us).length := h.length_eq
  have hunder : liveBracketsUnderNot ts = liveBracketsUnderNot us := by
    rw [liveBracketsUnderNot_eq, liveBracketsUnderNot_eq, ← List.forall₂_eq_eq_eq, List.forall₂_map_left_iff,
      List.forall₂_map_right_iff]
    exact h
  refine ⟨?_, ?_, fun d => ?_⟩
  · rw [isEmpty_ofConnective, isEmpty_ofConnective, Bool.eq_iff_iff, ← live_eq_nil_iff, ← live_eq_nil_iff,
      ← List.length_eq_zero_iff, hlength, List.length_eq_zero_iff]
  · cases c <;> simp only [ofConnective, bracketsUnderNot, hunder]
  · cases c <;> simp only [ofConnective, bracketsIn, hlength]

end SameBrackets

theorem exists_visible_group (c : Connective) (hlive : (ofConnective c ts).isEmpty = false)
    (h : ∀ t ∈ ts, t.isEmpty = false → ∃ x ∈ t.text.toList, Text.isBlankChar x = false) :
    ∃ x ∈ (ofConnective c ts).text.toList, Text.isBlankChar x = false := by
  match hcase : live ts with
  | [] => exact absurd hcase ((isEmpty_ofConnective_eq_false_iff c).1 hlive)
  | [t] =>
    obtain ⟨ht, htlive⟩ := mem_live.1 (show t ∈ live ts by simp [hcase])
    rw [text_of_live_one c hcase]
    exact h t ht htlive
  | t :: u :: us =>
    rw [toList_join c (by simp [hcase])]
    -- a connective or a bracket is written in any case
    cases c with
    | and => exact ⟨'a', by simp [parts, hcase, between, Connective.keyword], by decide⟩
    | or => exact ⟨'(', List.mem_cons_self, by decide⟩

theorem exists_visible {e : Expr} (hlive : e.isEmpty = false) :
    ∃ x ∈ e.text.toList, Text.isBlankChar x = false := by
  match e with
  | compare path op value =>
    have hkeyword : ∃ x ∈ op.keyword.toList, Text.isBlankChar x = false := by
      cases op <;> exact ⟨_, List.mem_cons_self, by decide⟩
    obtain ⟨x, hx, hvisible⟩ := hkeyword
    rw [toList_compare]
    exact ⟨x, by simp [hx], hvisible⟩
  | related path op condition =>
    rw [toList_related]
    exact ⟨'(', by simp, by decide⟩
  | member path op members =>
    rw [toList_member]
    exact ⟨'(', by simp, by decide⟩
  | and ts => exact exists_visible_group .and hlive fun t ht hlive => exists_visible hlive
  | or ts => exact exists_visible_group .or hlive fun t ht hlive => exists_visible hlive
  | not t =>
    rw [toList_not]
    exact ⟨'n', List.mem_append_left _ List.mem_cons_self, by decide⟩
  | raw text =>
    have hsome : text.toList.all Text.isBlankChar = false := hlive
    obtain ⟨x, hx, hvisible⟩ := List.all_eq_false.1 hsome
    rw [Expr.text]
    exact ⟨x, hx, by simpa using hvisible⟩
termination_by sizeOf e

theorem text_ne_nil (hlive : e.isEmpty = false) : e.text.toList ≠ [] := by
  obtain ⟨x, hx, -⟩ := exists_visible hlive
  exact List.ne_nil_of_mem hx

theorem text_all_eq_empty_iff : (all ts).text = "" ↔ live ts = [] := by
  refine ⟨fun htext => ?_, fun hnone => ?_⟩
  · by_contra hsome
    exact text_ne_nil ((isEmpty_group_eq_false_iff .and).2 hsome) (String.toList_eq_nil_iff.2 htext)
  · rw [text_all]
    exact String.toList_eq_nil_iff.1 (text_of_live_nil .and hnone)

end Expr

/-! ## Clauses -/

theorem toList_joinParts (parts : List String) :
    (joinParts parts).toList = [' '].intercalate ((parts.map String.toList).filter (!·.isEmpty)) := by
  rw [joinParts, String.toList_intercalate, List.filter_map]
  congr 2
  apply List.filter_congr
  intro part _
  have hsame : part.isEmpty = part.toList.isEmpty := by
    rw [Bool.eq_iff_iff, String.isEmpty_iff, List.isEmpty_iff, String.toList_eq_nil_iff]
  rw [hsame, Function.comp]

namespace Clauses

def front (c : Clauses) (withProjection : Bool) : List String :=
  (if withProjection && !c.projection.isEmpty then ["select", ", ".intercalate c.projection, "from"] else []) ++
  [c.entityType]

def conditionParts (condition : String) : List String := if condition.isEmpty then [] else ["where", condition]

theorem conditionParts_of_shown {condition : String} (h : condition.toList ≠ []) :
    conditionParts condition = ["where", condition] := by
  rw [conditionParts, if_neg]
  rwa [String.isEmpty_iff, ← String.toList_eq_nil_iff]

def limitParts : Option UInt64 → List String
  | none => []
  | some n => ["limit " ++ toString n.toNat]

def back (c : Clauses) : List String :=
  (if c.groupBy.isEmpty then [] else ["group by", ", ".intercalate c.groupBy]) ++
  ((if c.sort.isEmpty then [] else ["order by", ", ".intercalate (c.sort.map SortKey.clause)]) ++
  ((if c.offset = 0 then [] else ["offset " ++ toString c.offset.toNat]) ++ limitParts c.limit))

theorem text_eq_parts (c : Clauses) (withProjection : Bool) :
    c.text withProjection = joinParts (c.front withProjection ++ (conditionParts c.predicate.text ++ c.back)) := by
  rw [text_eq, clauseParts.eq_def, front, conditionParts, back]
  simp only [List.append_assoc]
  cases c.limit <;> rfl

variable {c : Clauses} {part : String}

theorem mem_front {withProjection : Bool} (h : part ∈ c.front withProjection) :
    part ∈ ["select", "from"] ∨ (part = ", ".intercalate c.projection ∧ c.projection ≠ []) ∨
      part = c.entityType := by
  rw [front, List.mem_append, List.mem_singleton, List.mem_ite_nil_right] at h
  rcases h with ⟨hprojection, h⟩ | h
  · have hne : c.projection ≠ [] := by
      rintro hnone
      simp [hnone] at hprojection
    simp only [List.mem_cons, List.not_mem_nil, or_false] at h
    rcases h with rfl | rfl | rfl
    · exact .inl (by simp)
    · exact .inr (.inl ⟨rfl, hne⟩)
    · exact .inl (by simp)
  · exact .inr (.inr h)

theorem mem_back (h : part ∈ c.back) :
    part ∈ ["group by", "order by"] ∨ (part = ", ".intercalate c.groupBy ∧ c.groupBy ≠ []) ∨
      (part = ", ".intercalate (c.sort.map SortKey.clause) ∧ c.sort ≠ []) ∨
      ∃ keyword ∈ ["offset ", "limit "], ∃ n : Nat, part = keyword ++ toString n := by
  simp only [back, List.mem_append, List.mem_ite_nil_left, List.mem_cons, List.not_mem_nil, or_false,
    List.isEmpty_iff] at h
  rcases h with ⟨hgroup, rfl | rfl⟩ | ⟨hsort, rfl | rfl⟩ | ⟨-, rfl⟩ | h
  · exact .inl (by simp)
  · exact .inr (.inl ⟨rfl, hgroup⟩)
  · exact .inl (by simp)
  · exact .inr (.inr (.inl ⟨rfl, hsort⟩))
  · exact .inr (.inr (.inr ⟨_, by simp, _, rfl⟩))
  · cases hlimit : c.limit with
    | none =>
      rw [hlimit] at h
      cases h
    | some n =>
      rw [hlimit] at h
      exact .inr (.inr (.inr ⟨_, by simp, _, List.mem_singleton.1 h⟩))

end Clauses

/-! ## Statements -/

def FieldValues.assignmentText (p : String × Value) : String := p.1 ++ "=" ++ Literal.encode p.2

theorem FieldValues.toList_assignmentText (p : String × Value) :
    (assignmentText p).toList = p.1.toList ++ '=' :: (Literal.encode p.2).toList := by
  rw [assignmentText, String.toList_append, String.toList_append, List.append_assoc]
  rfl

theorem FieldValues.forall₂_of_beq {a b : FieldValues} (h : (a == b) = true) :
    List.Forall₂ (fun p q => p.1 = q.1 ∧ (p.2 == q.2) = true) a.fields b.fields := by
  obtain ⟨fs⟩ := a
  obtain ⟨gs⟩ := b
  change (fs == gs) = true at h
  induction fs generalizing gs with
  | nil =>
    cases gs with
    | nil => exact .nil
    | cons q gs => cases h
  | cons p fs ih =>
    cases gs with
    | nil => cases h
    | cons q gs =>
      rw [List.cons_beq_cons, Bool.and_eq_true] at h
      obtain ⟨hfirst, hrest⟩ := h
      obtain ⟨hkey, hvalue⟩ : (p.1 == q.1) = true ∧ (p.2 == q.2) = true := Bool.and_eq_true_iff.1 hfirst
      exact .cons ⟨LawfulBEq.eq_of_beq hkey, hvalue⟩ (ih gs hrest)

theorem FieldValues.text_eq (a : FieldValues) : a.text = ", ".intercalate (a.fields.map assignmentText) := rfl

variable {σ : Type}

theorem Insert.toList_text (s : Insert σ) : s.text.toList =
    "create ".toList ++ (s.entityType.toList ++ '(' :: (s.values.text.toList ++ [')'])) := by
  simp only [Insert.text, String.toList_append, List.append_assoc]
  rfl

theorem Update.toList_text (s : Update σ) : (Update.text s).toList =
    "update ".toList ++ ((s.clauses.text false).toList ++
      ' ' :: ("set".toList ++ ' ' :: '(' :: (s.effect.text.toList ++ [')']))) := by
  simp only [Update.text, Update.queryText, String.toList_append, List.append_assoc]
  rfl

theorem Delete.toList_text (s : Delete σ) :
    (Delete.text s).toList = "delete ".toList ++ (s.clauses.text false).toList := by
  rw [Delete.text, String.toList_append]

end EntityQuery
