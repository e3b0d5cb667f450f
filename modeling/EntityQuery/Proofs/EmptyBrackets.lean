import EntityQuery.Proofs.Tidy

/-!
# Empty brackets

Brackets that are closed as soon as they are opened, outside literals (`EmptyBrackets`). In a text that is put together
from balanced parts they cannot arise where two parts meet, only inside a part (`not_emptyBrackets_append`) or around an
empty one (`not_emptyBrackets_brackets`). Names and literals have none, nor has what clauses write around their condition.
-/

namespace EntityQuery

open RawText Position

/-- Somewhere outside literals, a bracket is closed just after it was opened. -/
def EmptyBrackets (cs : List Char) : Prop :=
  ∃ pre post depth, cs = pre ++ '(' :: ')' :: post ∧ Position.start.run pre = plain depth

variable {cs a b pre post : List Char} {d e : Nat}

theorem run_plain_from (h : (plain d).run pre = plain e) (d' : Nat) : ∃ e', (plain d').run pre = plain e' := by
  rcases Nat.le_total d d' with hle | hle
  · have hunder : ((plain d).run pre).Under ((plain d').run pre) := Under.run (p := plain d) (q := plain d') hle pre
    cases hrun : (plain d').run pre with
    | plain e' => exact ⟨e', rfl⟩
    | literal =>
      rw [h, hrun] at hunder
      exact hunder.elim
  · have hunder : ((plain d').run pre).Under ((plain d).run pre) := Under.run (p := plain d') (q := plain d) hle pre
    cases hrun : (plain d').run pre with
    | plain e' => exact ⟨e', rfl⟩
    | literal =>
      rw [h, hrun] at hunder
      exact hunder.elim

theorem RawText.Balanced.ne_opened (h : Balanced cs) (hrun : (plain d).run pre = plain e) : cs ≠ pre ++ ['('] := by
  rintro rfl
  obtain ⟨depth, hstart⟩ := run_plain_from hrun 0
  have hopened : (plain 0).run (pre ++ ['(']) = plain (depth + 1) := by
    rw [run_append, hstart]
    rfl
  rw [h 0] at hopened
  cases hopened

namespace EmptyBrackets

theorem append_left (h : EmptyBrackets a) (b : List Char) : EmptyBrackets (a ++ b) := by
  obtain ⟨pre, post, depth, rfl, hrun⟩ := h
  exact ⟨pre, post ++ b, depth, by simp, hrun⟩

theorem append_right (ha : Balanced a) (h : EmptyBrackets b) : EmptyBrackets (a ++ b) := by
  obtain ⟨pre, post, depth, rfl, hrun⟩ := h
  exact ⟨a ++ pre, post, depth, by simp, by rw [run_append, ha.run_start, hrun]⟩

theorem brackets (h : EmptyBrackets cs) : EmptyBrackets ('(' :: (cs ++ [')'])) := by
  obtain ⟨pre, post, depth, rfl, hrun⟩ := h
  obtain ⟨depth', hrun'⟩ := run_plain_from hrun 1
  exact ⟨'(' :: pre, post ++ [')'], depth', by simp, hrun'⟩

theorem intercalate {sep : List Char} {parts : List (List Char)} (hsep : Balanced sep)
    (h : ∀ part ∈ parts, Balanced part) (hsome : ∃ part ∈ parts, EmptyBrackets part) :
    EmptyBrackets (sep.intercalate parts) := by
  obtain ⟨part, hmem, hempty⟩ := hsome
  induction parts with
  | nil => cases hmem
  | cons first rest ih =>
    obtain ⟨hfirst, hrest⟩ := List.forall_mem_cons.1 h
    cases rest with
    | nil =>
      rw [List.mem_singleton.1 hmem] at hempty
      simpa using hempty
    | cons next rest =>
      rw [List.intercalate_cons_cons]
      rcases List.mem_cons.1 hmem with rfl | hmem
      · exact (hempty.append_left sep).append_left _
      · exact (ih hrest hmem).append_right (hfirst.append hsep)

theorem written {name op inner : List Char} (hname : Balanced name) (hop : IsOperator op) (h : EmptyBrackets inner) :
    EmptyBrackets (name ++ ' ' :: (op ++ ' ' :: inner)) := by
  have hblank : Balanced [' '] := balanced_of_all (by decide)
  have hoperand : EmptyBrackets (op ++ ([' '] ++ inner)) := .append_right hop.balanced (.append_right hblank h)
  exact .append_right hname (.append_right (a := [' ']) hblank hoperand)

end EmptyBrackets

theorem emptyBrackets_nil : EmptyBrackets ['(', ')'] := ⟨[], [], 0, rfl, rfl⟩

/-! ## Texts without empty brackets -/

theorem not_emptyBrackets_of_not_mem (h : '(' ∉ cs) : ¬ EmptyBrackets cs := by
  rintro ⟨pre, post, depth, rfl, -⟩
  simp at h

theorem not_emptyBrackets_append (ha : Balanced a) (hna : ¬ EmptyBrackets a) (hnb : ¬ EmptyBrackets b) :
    ¬ EmptyBrackets (a ++ b) := by
  rintro ⟨pre, post, depth, hsplit, hrun⟩
  rcases List.append_eq_append_iff.1 hsplit with ⟨mid, rfl, hb⟩ | ⟨mid, hmid, hrest⟩
  · rw [run_append, ha.run_start] at hrun
    exact hnb ⟨mid, post, depth, hb, hrun⟩
  · -- what `a` goes on with after `pre` is nothing, the opened bracket, or both brackets
    match mid, hmid, hrest with
    | [], _, hrest => exact hnb ⟨[], post, 0, hrest.symm, rfl⟩
    | [x], hmid, hrest =>
      obtain ⟨rfl, -⟩ := List.cons.inj hrest
      exact ha.ne_opened hrun hmid
    | x :: y :: mid, hmid, hrest =>
      obtain ⟨rfl, hrest'⟩ := List.cons.inj hrest
      obtain ⟨rfl, -⟩ := List.cons.inj hrest'
      exact hna ⟨pre, mid, depth, hmid, hrun⟩

theorem not_emptyBrackets_brackets (h : Balanced cs) (hne : cs ≠ []) (hnone : ¬ EmptyBrackets cs) :
    ¬ EmptyBrackets ('(' :: (cs ++ [')'])) := by
  rintro ⟨pre, post, depth, hsplit, hrun⟩
  cases pre with
  | nil =>
    obtain ⟨c, cs, rfl⟩ := List.exists_cons_of_ne_nil hne
    obtain ⟨rfl, -⟩ := List.cons.inj (List.cons.inj hsplit).2
    have hclosed : Balanced ([')'] ++ cs) := h
    exact hclosed.run_ne_start 0 rfl
  | cons x pre =>
    obtain ⟨rfl, hinner⟩ := List.cons.inj hsplit
    obtain ⟨last, rfl⟩ := split_before_last (by decide) hinner
    cases last with
    | nil => exact h.ne_opened (d := 1) hrun rfl
    | cons y last =>
      have hclosed : y = ')' := by
        rw [List.append_assoc] at hinner
        exact (List.cons.inj (List.cons.inj (List.append_cancel_left hinner)).2).1
      obtain ⟨depth', hrun'⟩ := run_plain_from (d := 1) hrun 0
      exact hnone ⟨pre, last, depth', by rw [hclosed], hrun'⟩

theorem not_emptyBrackets_intercalate {sep : List Char} {parts : List (List Char)} (hsep : Balanced sep)
    (hnsep : ¬ EmptyBrackets sep) (h : ∀ part ∈ parts, Balanced part ∧ ¬ EmptyBrackets part) :
    ¬ EmptyBrackets (sep.intercalate parts) := by
  induction parts with
  | nil => exact not_emptyBrackets_of_not_mem (by simp)
  | cons first rest ih =>
    obtain ⟨⟨hfirst, hnone⟩, hrest⟩ := List.forall_mem_cons.1 h
    cases rest with
    | nil => simpa using hnone
    | cons next rest =>
      rw [List.intercalate_cons_cons]
      exact not_emptyBrackets_append (hfirst.append hsep) (not_emptyBrackets_append hfirst hnone hnsep) (ih hrest)

theorem IsLiteral.not_emptyBrackets (h : IsLiteral cs) : ¬ EmptyBrackets cs := by
  cases h with
  | missing => exact not_emptyBrackets_of_not_mem (by decide)
  | yes => exact not_emptyBrackets_of_not_mem (by decide)
  | no => exact not_emptyBrackets_of_not_mem (by decide)
  | number hnum => exact not_emptyBrackets_of_not_mem fun hmem => (IsLiteral.numeral_plain hnum _ hmem).2.2.1 rfl
  | text hread =>
    obtain ⟨body, rfl, -, hinside⟩ := readLiteral_run hread
    rintro ⟨pre, post, depth, hsplit, hrun⟩
    cases pre with
    | nil => simp at hsplit
    | cons x pre =>
      obtain ⟨rfl, hinner⟩ := List.cons.inj hsplit
      obtain ⟨last, hbody⟩ := split_before_last (by decide) hinner
      obtain ⟨escaped, hliteral⟩ := hinside pre _ 0 hbody
      exact Position.noConfusion (hliteral.symm.trans hrun)

theorem not_emptyBrackets_written {name op inner : List Char} (hname : ∀ c ∈ name, isNameChar c = true)
    (hop : IsOperator op) (h : ¬ EmptyBrackets inner) : ¬ EmptyBrackets (name ++ ' ' :: (op ++ ' ' :: inner)) := by
  have hblank {cs : List Char} (h : ¬ EmptyBrackets cs) : ¬ EmptyBrackets ([' '] ++ cs) :=
    not_emptyBrackets_append (balanced_of_all (by decide)) (not_emptyBrackets_of_not_mem (by decide)) h
  have hnone : '(' ∉ op := fun hmem => (hop.plain.1 _ hmem).2.2.1 rfl
  exact not_emptyBrackets_append (balanced_of_isNameChar hname)
    (not_emptyBrackets_of_not_mem (not_mem_of_isNameChar hname (by simp)))
    (hblank (not_emptyBrackets_append hop.balanced (not_emptyBrackets_of_not_mem hnone) (hblank h)))

/-! ## Clauses -/

namespace Clauses.HasNames

variable {c : Clauses} (h : c.HasNames)
include h

theorem no_brackets (withProjection : Bool) : ∀ part ∈ c.front withProjection ++ c.back, '(' ∉ part.toList := by
  have hname {s : String} (hs : IsName s) : '(' ∉ s.toList := not_mem_of_isNameChar hs.2 (by simp)
  have hkeywords : ∀ keyword ∈ ["select", "from"] ++ (["group by", "order by"] ++ ["offset ", "limit "]),
      '(' ∉ keyword.toList := by
    decide
  intro part hpart
  rcases List.mem_append.1 hpart with hpart | hpart
  · rcases mem_front hpart with hkeyword | ⟨rfl, -⟩ | rfl
    · exact hkeywords part (List.mem_append_left _ hkeyword)
    · exact not_mem_intercalate (by decide) fun s hs => hname (h.projection s hs)
    · exact hname h.entityType
  · rcases mem_back hpart with hkeyword | ⟨rfl, -⟩ | ⟨rfl, -⟩ | ⟨keyword, hkeyword, n, rfl⟩
    · exact hkeywords part (List.mem_append_right _ (List.mem_append_left _ hkeyword))
    · exact not_mem_intercalate (by decide) fun s hs => hname (h.groupBy s hs)
    · refine not_mem_intercalate (by decide) ?_
      rw [List.forall_mem_map]
      intro k hk
      have hpath : '(' ∉ k.path.toText.toList := not_mem_of_isNameChar (h.sort k hk).isNameChar (by simp)
      rw [SortKey.clause]
      split
      · exact hpath
      · rw [String.toList_append, List.mem_append, not_or]
        exact ⟨hpath, by decide⟩
    · rw [String.toList_append, List.mem_append, not_or]
      refine ⟨hkeywords keyword (List.mem_append_right _ (List.mem_append_right _ hkeyword)), fun hmem => ?_⟩
      exact (IsLiteral.numeral_plain (isNumeral_toString n) _ hmem).2.2.1 rfl

theorem not_emptyBrackets {condition : String} (hcondition : Balanced condition.toList)
    (hnone : ¬ EmptyBrackets condition.toList) (withProjection : Bool) :
    ¬ EmptyBrackets (joinParts (c.front withProjection ++ (conditionParts condition ++ c.back))).toList := by
  rw [joinParts, String.toList_intercalate]
  refine not_emptyBrackets_intercalate (balanced_of_all (by decide)) (not_emptyBrackets_of_not_mem (by decide)) ?_
  rw [List.forall_mem_map]
  intro part hpart
  obtain ⟨hpart, -⟩ := List.mem_filter.1 hpart
  refine ⟨h.balanced_parts hcondition withProjection part hpart, ?_⟩
  have hfixed := h.no_brackets withProjection
  rw [List.mem_append, List.mem_append, conditionParts, List.mem_ite_nil_left] at hpart
  rcases hpart with hpart | ⟨-, hpart⟩ | hpart
  · exact not_emptyBrackets_of_not_mem (hfixed part (List.mem_append_left _ hpart))
  · rcases List.mem_cons.1 hpart with rfl | hpart
    · exact not_emptyBrackets_of_not_mem (by decide)
    · rwa [List.mem_singleton.1 hpart]
  · exact not_emptyBrackets_of_not_mem (hfixed part (List.mem_append_right _ hpart))

theorem emptyBrackets {condition : String} (hcondition : Balanced condition.toList)
    (hempty : EmptyBrackets condition.toList) (withProjection : Bool) :
    EmptyBrackets (joinParts (c.front withProjection ++ (conditionParts condition ++ c.back))).toList := by
  have hshows : condition.isEmpty = false := by
    obtain ⟨pre, post, -, htext, -⟩ := hempty
    rw [Bool.eq_false_iff, ne_eq, String.isEmpty_iff]
    rintro rfl
    simp at htext
  rw [joinParts, String.toList_intercalate]
  refine .intercalate (balanced_of_all (by decide)) ?_ ⟨_, List.mem_map_of_mem ?_, hempty⟩
  · rw [List.forall_mem_map]
    exact fun part hpart => h.balanced_parts hcondition withProjection part (List.mem_filter.1 hpart).1
  · simp [conditionParts, hshows]

end Clauses.HasNames

end EntityQuery
