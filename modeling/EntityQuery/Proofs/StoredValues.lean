import EntityQuery.Proofs.BuilderCalls
import EntityQuery.Proofs.LastValues

/-!
# The values that a statement stores

An insert and an update are given values call by call. What they store keeps each key once, in the order in which the
keys first came, with the value that came last, over all calls (`stored_values_keep_last`). This says everything about the
list that is stored (`KeepsLast.unique`), so the list depends on nothing but the pairs one after the other, and to give
once more the pairs that came last changes nothing (`KeepsLast.of_again`).
-/

namespace EntityQuery

section pairs

variable {α : Type} {pairs earlier fields fields' : List (String × α)} {key : String} {x y : α}

/-! ## One list keeps the last values -/

theorem eraseDups_append_of_subset {keys keys' : List String} (h : ∀ key ∈ keys', key ∈ keys) :
    (keys ++ keys').eraseDups = keys.eraseDups := by
  have hnone : keys'.removeAll keys = [] := by
    rw [List.removeAll, List.filter_eq_nil_iff]
    intro key hkey
    simp [h key hkey]
  rw [List.eraseDups_append, hnone, List.eraseDups_nil, List.append_nil]

theorem lastGiven_append : LastGiven (earlier ++ pairs) key x ↔
    LastGiven pairs key x ∨ (LastGiven earlier key x ∧ ∀ p ∈ pairs, p.1 ≠ key) := by
  constructor
  · rintro ⟨before, after, hsplit, hafter⟩
    rcases List.append_eq_append_iff.1 hsplit with ⟨mid, -, hpairs⟩ | ⟨mid, hearlier, hrest⟩
    · exact .inl ⟨mid, after, hpairs, hafter⟩
    · cases mid with
      | nil => exact .inl ⟨[], after, hrest.symm, hafter⟩
      | cons p mid =>
        -- the last pair for the key is among the earlier ones
        obtain ⟨rfl, rfl⟩ := List.cons.inj hrest
        obtain ⟨hmid, hlater⟩ := List.forall_mem_append.1 hafter
        exact .inr ⟨⟨before, mid, hearlier, hmid⟩, hlater⟩
  · rintro (⟨before, after, rfl, hafter⟩ | ⟨⟨before, after, rfl, hafter⟩, hlater⟩)
    · exact ⟨earlier ++ before, after, by simp, hafter⟩
    · exact ⟨before, after ++ pairs, by simp, List.forall_mem_append.2 ⟨hafter, hlater⟩⟩

theorem LastGiven.unique (h : LastGiven pairs key x) (h' : LastGiven pairs key y) : x = y := by
  obtain ⟨before, after, rfl, hafter⟩ := h
  rcases lastGiven_append.1 h' with ⟨before', after', hsplit, -⟩ | ⟨-, hnone⟩
  · rcases List.cons_eq_append_iff.1 hsplit with ⟨-, hfirst⟩ | ⟨mid, -, hmid⟩
    · exact congrArg Prod.snd (List.cons.inj hfirst).1.symm
    · have hmem : (key, y) ∈ after := by simp [hmid]
      exact absurd rfl (hafter _ hmem)
  · exact absurd rfl (hnone (key, x) List.mem_cons_self)

namespace KeepsLast

theorem nodup (h : KeepsLast pairs fields) : (fields.map Prod.fst).Nodup := h.keys ▸ nodup_eraseDups _

/-- **What is kept is determined by the pairs.** -/
theorem unique (h : KeepsLast pairs fields) (h' : KeepsLast pairs fields') : fields = fields' := by
  have hsame : fields.map id = fields'.map id := by
    refine map_eq_of_map_eq (fun p hp q hq hkey => ?_) (h.keys.trans h'.keys.symm)
    have hlast := h'.values q hq
    rw [← hkey] at hlast
    exact Prod.ext hkey ((h.values p hp).unique hlast)
  rwa [List.map_id, List.map_id] at hsame

/-- Pairs that came last add nothing when they come again. -/
theorem of_again (h : KeepsLast (earlier ++ pairs ++ pairs) fields) : KeepsLast (earlier ++ pairs) fields where
  keys := by
    have hgiven : ∀ key ∈ pairs.map Prod.fst, key ∈ (earlier ++ pairs).map Prod.fst := by
      intro key hkey
      rw [List.map_append]
      exact List.mem_append_right _ hkey
    rw [h.keys, List.map_append, eraseDups_append_of_subset hgiven]
  values p hp := by
    rcases lastGiven_append.1 (h.values p hp) with hlast | ⟨hlast, -⟩
    · exact lastGiven_append.2 (.inl hlast)
    · exact hlast

end KeepsLast

end pairs

theorem FieldValues.ofList_again (earlier pairs : List (String × Value)) :
    (ofList (earlier ++ pairs)).extend pairs = ofList (earlier ++ pairs) := by
  have htwice : KeepsLast (earlier ++ pairs ++ pairs) ((ofList (earlier ++ pairs)).extend pairs).fields := by
    rw [ofList, ← extend_append]
    exact keepsLast_ofList _
  exact congrArg FieldValues.mk (htwice.of_again.unique (keepsLast_ofList _))

/-! ## Calls that give values -/

variable {σ : Type}

theorem Insert.foldl_assign (s : Insert σ) (calls : List (List (String × Value))) :
    calls.foldl assign s = s.assign calls.flatten := by
  induction calls generalizing s with
  | nil => rfl
  | cons pairs calls ih =>
    rw [List.foldl_cons, ih, List.flatten_cons, assign, assign, assign, FieldValues.extend_append]

namespace BuilderCall

def given : BuilderCall σ .update → List (String × Value)
  | values pairs => pairs
  | _ => []

theorem effect_attempt (s : Update σ) (c : BuilderCall σ .update) :
    (attempt (k := .update) s c).effect = s.effect.extend c.given := by
  by_cases haspect : .assignments = c.aspect
  · cases c with
    | values pairs => rfl
    | _ => cases haspect
  · have hsame := Option.some.inj (Part.assignments.inj (part_attempt_of_ne (k := .update) (s := s) haspect))
    cases c with
    | values pairs => exact absurd rfl haspect
    | _ => exact hsame

theorem effect_run (s : Update σ) (calls : List (BuilderCall σ .update)) :
    (run (k := .update) s calls).effect = s.effect.extend (calls.flatMap given) := by
  induction calls generalizing s with
  | nil => rfl
  | cons c calls ih =>
    rw [List.flatMap_cons, FieldValues.extend_append, ← effect_attempt]
    exact ih _

end BuilderCall

/-! ## The main statement -/

open BuilderCall in
/-- **Of the values that a statement is given for a key it stores the last one**, in the place of the first. That is so for
an insert and for an update, however the pairs are spread over calls, and for an update whatever other calls there are.
Calls that give the same pairs one after the other store the same, and giving the last ones again changes nothing. -/
theorem stored_values_keep_last (entityType : String) :
    (∀ calls : List (List (String × Value)),
      let start : Insert σ := Insert.ofType entityType
      let stored := calls.foldl Insert.assign start
      (stored.values.fields.map Prod.fst).Nodup ∧ KeepsLast calls.flatten stored.values.fields ∧
      (∀ calls' : List (List (String × Value)), calls'.flatten = calls.flatten →
        calls'.foldl Insert.assign start = stored) ∧
      ∀ again, again <:+ calls → again.foldl Insert.assign stored = stored) ∧
    ∀ calls : List (BuilderCall σ .update),
      let start : Update σ := Update.ofType entityType
      let stored := run (k := .update) start calls
      (stored.effect.fields.map Prod.fst).Nodup ∧ KeepsLast (calls.flatMap given) stored.effect.fields ∧
      (∀ calls', calls'.flatMap given = calls.flatMap given → (run (k := .update) start calls').effect = stored.effect) ∧
      ∀ again, again <:+ calls → (run (k := .update) stored again).effect = stored.effect := by
  refine ⟨fun calls => ?_, fun calls => ?_⟩
  · intro start stored
    have hstored : stored.values = .ofList calls.flatten := by
      rw [show stored = start.assign calls.flatten from start.foldl_assign calls]
      rfl
    -- everything is read off the concatenation of the calls
    have hkeeps : KeepsLast calls.flatten stored.values.fields := hstored ▸ keepsLast_ofList _
    refine ⟨hkeeps.nodup, hkeeps, fun calls' hsame => ?_, ?_⟩
    · rw [Insert.foldl_assign, hsame, ← Insert.foldl_assign]
    · rintro again ⟨earlier, rfl⟩
      rw [List.flatten_append] at hstored
      have hvalues := FieldValues.ofList_again earlier.flatten again.flatten
      rw [← hstored] at hvalues
      rw [Insert.foldl_assign, Insert.assign, hvalues]
  · intro start stored
    have hstored : stored.effect = .ofList (calls.flatMap given) := effect_run start calls
    have hkeeps : KeepsLast (calls.flatMap given) stored.effect.fields := hstored ▸ keepsLast_ofList _
    refine ⟨hkeeps.nodup, hkeeps, fun calls' hsame => ?_, ?_⟩
    · rw [effect_run, hsame, ← effect_run]
    · rintro again ⟨earlier, rfl⟩
      rw [List.flatMap_append] at hstored
      rw [effect_run, hstored, FieldValues.ofList_again]

open BuilderCall in
/-- Two calls of which the second takes up a key of the first: what an insert stores is stored by one call as well, and the
second call may be made again; so it is for an update that has a condition added in between. -/
theorem name_given_twice_stored_last :
    let first := [("name", Value.text "a"), ("bid", .integer 1)]
    let second := [("note", Value.null), ("name", .text "b")]
    let stored := [first, second].foldl Insert.assign (Insert.ofType "Task" : Insert Unit)
    let start : Update Unit := Update.ofType "Task"
    let calls := [values first, narrow (.expr (.raw "bid is 2")), values second]
    let updated := run (k := .update) start calls
    stored.text = "create Task(name=\"b\", bid=1, note=none)" ∧
    [first ++ second].foldl Insert.assign (Insert.ofType "Task") = stored ∧ [second].foldl Insert.assign stored = stored ∧
    Update.text updated = "update Task where bid is 2 set (name=\"b\", bid=1, note=none)" ∧
    (run (k := .update) start [values (first ++ second)]).effect = updated.effect ∧
    (run (k := .update) updated [values second]).effect = updated.effect := by
  intro first second stored start calls updated
  obtain ⟨hinsert, hupdate⟩ := stored_values_keep_last (σ := Unit) "Task"
  obtain ⟨-, -, hsame, hagain⟩ := hinsert [first, second]
  obtain ⟨-, -, hsame', hagain'⟩ := hupdate calls
  exact ⟨by decide +kernel, hsame [first ++ second] rfl, hagain [second] ⟨[first], rfl⟩, by decide +kernel,
    hsame' [values (first ++ second)] rfl, hagain' [values second] ⟨calls.take 2, rfl⟩⟩

end EntityQuery
