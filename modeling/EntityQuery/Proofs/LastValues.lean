import EntityQuery.Fields
import Mathlib.Tactic.Common
import Mathlib.Data.List.Induction
import Mathlib.Data.List.Nodup

/-!
# Fields, each once

Assigning pair after pair leaves each key once, where it came first, with the value that it was given last
(`keepsLast_assignAll`). One assignment either changes the value of a key in its place or puts the key at the end, and a
list that has each key once already keeps to that (`mem_assign`).
-/

namespace EntityQuery

variable {α : Type}

def LastGiven (pairs : List (String × α)) (key : String) (x : α) : Prop :=
  ∃ before after, pairs = before ++ (key, x) :: after ∧ ∀ p ∈ after, p.1 ≠ key

/-- Each key once, in the order of its first pair, with the value of its last pair. -/
structure KeepsLast (pairs fields : List (String × α)) : Prop where
  keys : fields.map Prod.fst = (pairs.map Prod.fst).eraseDups
  values : ∀ p ∈ fields, LastGiven pairs p.1 p.2

/-! ## Keys without repetition -/

theorem eraseDups_concat (keys : List String) (key : String) :
    (keys ++ [key]).eraseDups = if key ∈ keys then keys.eraseDups else keys.eraseDups ++ [key] := by
  rw [List.eraseDups_append]
  split
  next hmem => simp [List.removeAll, hmem]
  next hmem => simp [List.removeAll, hmem, List.eraseDups_cons]

theorem nodup_eraseDups (keys : List String) : keys.eraseDups.Nodup := by
  induction keys using List.reverseRecOn with
  | nil => exact List.nodup_nil
  | append_singleton keys key ih =>
    rw [eraseDups_concat]
    split
    · exact ih
    next hmem =>
      rw [← List.concat_eq_append]
      exact ih.concat fun h => hmem (List.mem_eraseDups.1 h)

/-! ## One assignment -/

namespace Fields

variable {key : String} {x : α} {fields : List (String × α)}

theorem keys_assign (key : String) (x : α) (fields : List (String × α)) :
    (assign key x fields).map Prod.fst =
      if key ∈ fields.map Prod.fst then fields.map Prod.fst else fields.map Prod.fst ++ [key] := by
  induction fields with
  | nil => rfl
  | cons p fields ih =>
    obtain ⟨k, y⟩ := p
    rw [assign]
    by_cases hkey : k = key
    · simp [hkey]
    · rw [if_neg hkey, List.map_cons, ih, List.map_cons]
      by_cases hmem : key ∈ fields.map Prod.fst
      · rw [if_pos hmem, if_pos (List.mem_cons_of_mem _ hmem)]
      · rw [if_neg hmem, if_neg fun h => (List.mem_cons.1 h).elim (Ne.symm hkey) hmem, List.cons_append]

theorem mem_assign (hnodup : (fields.map Prod.fst).Nodup) {p : String × α} (h : p ∈ assign key x fields) :
    p = (key, x) ∨ (p ∈ fields ∧ p.1 ≠ key) := by
  induction fields with
  | nil => exact .inl (List.mem_singleton.1 h)
  | cons q fields ih =>
    obtain ⟨k, y⟩ := q
    rw [List.map_cons, List.nodup_cons] at hnodup
    rw [assign] at h
    split at h
    next hkey =>
      subst hkey
      refine (List.mem_cons.1 h).imp id fun hmem => ⟨List.mem_cons_of_mem _ hmem, fun hsame => ?_⟩
      exact hnodup.1 (List.mem_map.2 ⟨p, hmem, hsame⟩)
    next hkey =>
      rcases List.mem_cons.1 h with rfl | hmem
      · exact .inr ⟨List.mem_cons_self, hkey⟩
      · exact (ih hnodup.2 hmem).imp id fun ⟨hold, hother⟩ => ⟨List.mem_cons_of_mem _ hold, hother⟩

end Fields

/-! ## All assignments -/

theorem LastGiven.concat {pairs : List (String × α)} {key : String} {x : α} (h : LastGiven pairs key x)
    {p : String × α} (hp : p.1 ≠ key) : LastGiven (pairs ++ [p]) key x := by
  obtain ⟨before, after, rfl, hafter⟩ := h
  refine ⟨before, after ++ [p], by simp, fun q hq => ?_⟩
  rcases List.mem_append.1 hq with hq | hq
  · exact hafter q hq
  · rwa [List.mem_singleton.1 hq]

theorem KeepsLast.assign {pairs fields : List (String × α)} (h : KeepsLast pairs fields) (key : String) (x : α) :
    KeepsLast (pairs ++ [(key, x)]) (Fields.assign key x fields) where
  keys := by
    rw [Fields.keys_assign, h.keys, List.map_append, List.map_singleton, eraseDups_concat]
    simp only [List.mem_eraseDups]
  values := by
    intro p hp
    have hnodup : (fields.map Prod.fst).Nodup := h.keys ▸ nodup_eraseDups _
    rcases Fields.mem_assign hnodup hp with rfl | ⟨hold, hother⟩
    · exact ⟨pairs, [], rfl, List.forall_mem_nil _⟩
    · exact (h.values p hold).concat (Ne.symm hother)

/-- **Of the values that are given for a key the last one is kept**, in the place of the first. -/
theorem keepsLast_assignAll (pairs : List (String × α)) : KeepsLast pairs (Fields.assignAll [] pairs) := by
  induction pairs using List.reverseRecOn with
  | nil => exact ⟨rfl, List.forall_mem_nil _⟩
  | append_singleton pairs p ih =>
    rw [Fields.assignAll_append]
    exact ih.assign p.1 p.2

theorem keepsLast_ofList (pairs : List (String × Value)) : KeepsLast pairs (FieldValues.ofList pairs).fields :=
  keepsLast_assignAll pairs

end EntityQuery
