import EntityQuery.Proofs.Names

/-!
# Paths and their texts

A path is begun with a text and extended call by call, by the names in another text or by a type for its last name. No
call leaves an empty name, and a dot gets into a name only with a type that has one (`hasDottedName_run`). Where no
type has one, a path and its text are the same thing: the text is read back as the path (`ofText_toText_iff`), and
a call has the effect of reading the text of the path with what the call adds to it (`apply_eq_ofText`).
-/

namespace EntityQuery

/-- A call that extends a path: by the names in a text, or by an entity type for the last name. -/
inductive PathCall where
  | append (names : String)
  | cast (entityType : String)

namespace PathCall

def text : PathCall → String
  | append names => "." ++ names
  | cast entityType => "[" ++ entityType ++ "]"

def HasDottedType : PathCall → Prop
  | append _ => False
  | cast entityType => '.' ∈ entityType.toList

instance (call : PathCall) : Decidable call.HasDottedType :=
  match call with
  | append _ => inferInstanceAs (Decidable False)
  | cast entityType => inferInstanceAs (Decidable ('.' ∈ entityType.toList))

end PathCall

namespace Path

def apply (p : Path) : PathCall → Path
  | .append names => p.append names
  | .cast entityType => p.cast entityType

def run (p : Path) (calls : List PathCall) : Path := calls.foldl apply p

def NamesNonempty (p : Path) : Prop := ∀ name ∈ p.segments, name ≠ ""

def HasDottedName (p : Path) : Prop := ∃ name ∈ p.segments, '.' ∈ name.toList

variable {p : Path} {call : PathCall} {calls : List PathCall}

/-! ## Names without dots -/

theorem forall_properSegment_iff :
    (∀ name ∈ p.segments, ProperSegment name) ↔ p.NamesNonempty ∧ ¬ p.HasDottedName := by
  simp only [ProperSegment, NamesNonempty, HasDottedName, not_exists, not_and]
  exact forall₂_and

theorem namesNonempty_ofText (s : String) : (ofText s).NamesNonempty :=
  fun _ hname => ne_empty_of_mem_splitSegments hname

theorem not_hasDottedName_ofText (s : String) : ¬ (ofText s).HasDottedName :=
  fun ⟨_, hname, hdot⟩ => (mem_of_mem_ofText hname '.' hdot).2 rfl

/-- A path is read back from its text just if no name is empty or has a dot in it. -/
theorem ofText_toText_iff : ofText p.toText = p ↔ p.NamesNonempty ∧ ¬ p.HasDottedName := by
  constructor
  · intro hread
    rw [← hread]
    exact ⟨namesNonempty_ofText _, not_hasDottedName_ofText _⟩
  · exact fun h => ofText_toText (forall_properSegment_iff.2 h)

/-! ## One call -/

theorem segments_append (p : Path) (s : String) : (p.append s).segments = p.segments ++ (ofText s).segments := rfl

theorem cast_cases (p : Path) (entityType : String) :
    (p.segments = [] ∧ (p.cast entityType).segments = ["[" ++ entityType ++ "]"]) ∨
    ∃ names last, p.segments = names ++ [last] ∧
      (p.cast entityType).segments = names ++ [last ++ ("[" ++ entityType ++ "]")] := by
  rcases List.eq_nil_or_concat p.segments with hnone | ⟨names, last, hsegments⟩
  · exact .inl ⟨hnone, by simp [cast, hnone]⟩
  · exact .inr ⟨names, last, by simpa using hsegments, by simp [cast, hsegments, String.append_assoc]⟩

theorem toText_cast (p : Path) (entityType : String) :
    (p.cast entityType).toText = p.toText ++ ("[" ++ entityType ++ "]") := by
  rw [toText, toText]
  rcases cast_cases p entityType with ⟨hnone, hcast⟩ | ⟨names, last, hsegments, hcast⟩
  · rw [hnone, hcast, String.intercalate_singleton, String.intercalate_nil, String.empty_append]
  · rw [hsegments, hcast]
    by_cases hnames : names = []
    · simp [hnames]
    · rw [String.intercalate_append_of_ne_nil hnames (by simp), String.intercalate_append_of_ne_nil hnames (by simp)]
      simp [String.append_assoc]

theorem NamesNonempty.apply (h : p.NamesNonempty) (call : PathCall) : (p.apply call).NamesNonempty := by
  intro name hname
  cases call with
  | append s =>
    rw [Path.apply, segments_append, List.mem_append] at hname
    rcases hname with hname | hname
    · exact h name hname
    · exact namesNonempty_ofText s name hname
  | cast entityType =>
    rw [Path.apply] at hname
    rcases cast_cases p entityType with ⟨-, hcast⟩ | ⟨names, last, hsegments, hcast⟩
    · rw [hcast, List.mem_singleton] at hname
      simp [hname]
    · rw [hcast, List.mem_append, List.mem_singleton] at hname
      rcases hname with hname | rfl
      · exact h name (by simp [hsegments, hname])
      · simp

theorem hasDottedName_apply (p : Path) (call : PathCall) :
    (p.apply call).HasDottedName ↔ p.HasDottedName ∨ call.HasDottedType := by
  cases call with
  | append s =>
    have hnone := not_hasDottedName_ofText s
    rw [HasDottedName] at hnone
    simp only [Path.apply, HasDottedName, segments_append, List.mem_append, or_and_right, exists_or, hnone,
      PathCall.HasDottedType]
  | cast entityType =>
    rw [Path.apply, HasDottedName, HasDottedName, PathCall.HasDottedType]
    rcases cast_cases p entityType with ⟨hnone, hcast⟩ | ⟨names, last, hsegments, hcast⟩
    · simp [hnone, hcast]
    · simp [hsegments, hcast, or_and_right, exists_or, or_assoc]

/-- What a call does to a path that is read back is to read its text with the call's text after it. -/
theorem apply_eq_ofText (hread : ofText p.toText = p) (hcall : ¬ call.HasDottedType) :
    p.apply call = ofText (p.toText ++ call.text) := by
  cases call with
  | append s =>
    rw [PathCall.text, ← String.append_assoc, ← append_ofText, hread]
    rfl
  | cast entityType =>
    obtain ⟨hnames, hdots⟩ := ofText_toText_iff.1 hread
    have hback : ofText (p.cast entityType).toText = p.cast entityType :=
      ofText_toText_iff.2 ⟨hnames.apply (.cast entityType),
        mt (hasDottedName_apply p (.cast entityType)).1 (not_or.2 ⟨hdots, hcall⟩)⟩
    rw [PathCall.text, ← toText_cast, hback]
    rfl

/-! ## Calls in a row -/

theorem NamesNonempty.run (h : p.NamesNonempty) (calls : List PathCall) : (p.run calls).NamesNonempty := by
  induction calls generalizing p with
  | nil => exact h
  | cons call calls ih => exact ih (h.apply call)

theorem hasDottedName_run : (p.run calls).HasDottedName ↔ p.HasDottedName ∨ ∃ call ∈ calls, call.HasDottedType := by
  induction calls generalizing p with
  | nil => simp [run]
  | cons call calls ih =>
    rw [show p.run (call :: calls) = (p.apply call).run calls from rfl, ih, hasDottedName_apply, or_assoc]
    simp

theorem hasDottedName_ofText_run (s : String) :
    ((ofText s).run calls).HasDottedName ↔ ∃ call ∈ calls, call.HasDottedType := by
  rw [hasDottedName_run]
  exact or_iff_right (not_hasDottedName_ofText s)

theorem ofText_toText_run_iff (s : String) :
    ofText ((ofText s).run calls).toText = (ofText s).run calls ↔ ∀ call ∈ calls, ¬ call.HasDottedType := by
  rw [ofText_toText_iff, hasDottedName_ofText_run]
  push Not
  exact and_iff_right ((namesNonempty_ofText s).run calls)

/-! ## The main statement -/

/-- **Paths correspond to their texts.** To extend the path of a text is to read that text with a dot and the other text
after it. Of a path that is begun with a text and extended by calls, no name is empty; some name has a dot in it just if
some type has, and just then the path is not read back from its text. Where no type has a dot, every further call is
reading the text of the path with the text of the call after it, and paths with the same text are the same. -/
theorem paths_correspond_to_texts :
    (∀ a b, (ofText a).append b = ofText (a ++ "." ++ b)) ∧
    (∀ a calls, let p := (ofText a).run calls
      p.NamesNonempty ∧ (p.HasDottedName ↔ ∃ call ∈ calls, call.HasDottedType) ∧
      (ofText p.toText = p ↔ ∀ call ∈ calls, ¬ call.HasDottedType) ∧
      ((∀ call ∈ calls, ¬ call.HasDottedType) →
        ∀ call, ¬ call.HasDottedType → p.apply call = ofText (p.toText ++ call.text))) ∧
    ∀ a b calls calls', (∀ call ∈ calls ++ calls', ¬ call.HasDottedType) →
      ((ofText a).run calls).toText = ((ofText b).run calls').toText → (ofText a).run calls = (ofText b).run calls' := by
  refine ⟨append_ofText, fun a calls => ⟨(namesNonempty_ofText a).run calls, hasDottedName_ofText_run a,
    ofText_toText_run_iff a, fun h call => ?_⟩, fun a b calls calls' h htext => ?_⟩
  · exact apply_eq_ofText ((ofText_toText_run_iff a).2 h)
  · rw [List.forall_mem_append] at h
    rw [← (ofText_toText_run_iff a).2 h.1, htext, (ofText_toText_run_iff b).2 h.2]

/-- Two ways to build one path, with dots too many in the texts, and a type for its last name. -/
theorem project_path_built_in_two_ways :
    let calls := [PathCall.append "b.", .cast "Project", .append ".c"]
    ((ofText "a").run calls).toText = "a.b[Project].c" ∧
      (ofText "a").run calls = (ofText "a..b[Project]").run [.append "c"] ∧
      ((ofText "a").run calls).cast "Status" = ofText "a.b[Project].c[Status]" := by
  intro calls
  have htext : ((ofText "a").run calls).toText = "a.b[Project].c" := by
    decide +kernel
  have hother : ((ofText "a..b[Project]").run [.append "c"]).toText = "a.b[Project].c" := by
    decide +kernel
  refine ⟨htext, paths_correspond_to_texts.2.2 _ _ _ _ (by decide) (htext.trans hother.symm), ?_⟩
  have hcast := (paths_correspond_to_texts.2.1 "a" calls).2.2.2 (by decide) (.cast "Status") (by decide)
  rwa [htext] at hcast

/-- A type with a dot in it: the path has one name, its text is that of two. -/
example : ofText ((ofText "a").cast "b.c").toText ≠ (ofText "a").cast "b.c" := by decide +kernel

end Path

end EntityQuery
