import EntityQuery.Proofs.Backtracking
import EntityQuery.Statement.Select
import Mathlib.Data.List.TakeWhile

/-!
# Selects of several paths

The text of a path names an entity type up to its first dot, and after that dot a field (`IsTypePath`). Several paths
make one select if they name one type; then the select is that of the first path with the fields of the others added to
it. Going through the paths one by one, with the type of the first kept and the fields gathered, comes to the same
(`gather_paths`): a path of another type ends it (`gather_of_ne`), any other adds its field (`gather_of_eq`).
-/

namespace EntityQuery

open Text

/-! ## Types and fields -/

/-- The text names the type and, after the first dot if there is one, the field. -/
inductive IsTypePath : String → String → Option String → Prop
  | alone {type : String} : '.' ∉ type.toList → IsTypePath type type none
  | dotted {type : String} (field : String) : '.' ∉ type.toList → IsTypePath (type ++ "." ++ field) type (some field)

theorem IsTypePath.split_eq {path type : String} {field : Option String} (h : IsTypePath path type field) :
    splitTypePath path = (type, field) := by
  cases h with
  | alone hdot =>
    have hdots : ∀ c ∈ path.toList, (c != '.') = true := fun c hc => bne_iff_ne.2 (ne_of_mem_of_not_mem hc hdot)
    rw [splitTypePath, List.takeWhile_eq_self_iff.2 hdots, List.dropWhile_eq_nil_iff.2 hdots, String.ofList_toList]
  | dotted field hdot =>
    have hchars : (type ++ "." ++ field).toList = type.toList ++ '.' :: field.toList := by simp
    rw [splitTypePath, hchars]
    simp only [takeWhile_ne_append_cons hdot, dropWhile_ne_append_cons hdot, String.ofList_toList]

theorem exists_isTypePath (path : String) : ∃ type field, IsTypePath path type field := by
  by_cases hdot : '.' ∈ path.toList
  · obtain ⟨type, field, hchars, htype⟩ := List.eq_append_cons_of_mem hdot
    have hpath : path = String.ofList type ++ "." ++ String.ofList field := by
      rw [← String.toList_inj, hchars]
      simp
    rw [hpath]
    exact ⟨_, _, .dotted _ (by rwa [String.toList_ofList])⟩
  · exact ⟨path, none, .alone hdot⟩

theorem splitTypePath_eq_iff {path type : String} {field : Option String} :
    splitTypePath path = (type, field) ↔ IsTypePath path type field := by
  refine ⟨fun h => ?_, IsTypePath.split_eq⟩
  obtain ⟨type', field', hpath⟩ := exists_isTypePath path
  rw [hpath.split_eq] at h
  cases h
  exact hpath

namespace Select

variable {σ : Type} {path type other : String} {paths fields : List String}

def typeOf (path : String) : String := (splitTypePath path).1

def fieldOf? (path : String) : Option String := (splitTypePath path).2

/-- The first path that does not name this type names the other one. -/
def FirstOther (type : String) (paths : List String) (other : String) : Prop :=
  ∃ before path after, paths = before ++ path :: after ∧ (∀ b ∈ before, typeOf b = type) ∧ typeOf path = other ∧
    other ≠ type

theorem otherType?_eq_none_iff : otherType? type paths = none ↔ ∀ path ∈ paths, typeOf path = type := by
  rw [otherType?, List.find?_eq_none, List.forall_mem_map]
  simp only [bne_iff_ne, not_not, typeOf]

theorem otherType?_eq_some_iff : otherType? type paths = some other ↔ FirstOther type paths other := by
  rw [otherType?, List.find?_map, Option.map_eq_some_iff]
  constructor
  · rintro ⟨path, hfind, rfl⟩
    obtain ⟨hother, before, after, rfl, hbefore⟩ := List.find?_eq_some_iff_append.1 hfind
    refine ⟨before, path, after, rfl, fun b hb => ?_, rfl, bne_iff_ne.1 hother⟩
    simpa [typeOf] using hbefore b hb
  · rintro ⟨before, path, after, rfl, hbefore, rfl, hother⟩
    refine ⟨path, List.find?_eq_some_iff_append.2 ⟨bne_iff_ne.2 hother, before, after, rfl, fun b hb => ?_⟩, rfl⟩
    simpa [typeOf] using hbefore b hb

/-! ## The select -/

theorem fields_cons (path : String) (paths : List String) :
    (path :: paths).filterMap fieldOf? = (fieldOf? path).toList ++ paths.filterMap fieldOf? := by
  rw [List.filterMap_cons]
  cases fieldOf? path <;> rfl

theorem ofPath_eq (path : String) :
    (ofPath path : Select σ) = (ofType (typeOf path)).populate (fieldOf? path).toList := rfl

theorem populate_populate (s : Select σ) (xs ys : List String) :
    (s.populate xs).populate ys = s.populate (xs ++ ys) := by
  simp [populate]

theorem populate_live (s : Select σ) (attributes : List String) :
    s.populate (attributes.filter (!·.isEmpty)) = s.populate attributes := by
  simp [populate]

theorem ofPaths_cons (path : String) (paths : List String) : (ofPaths (path :: paths) : Except Error (Select σ)) =
    match otherType? (typeOf path) paths with
    | some other => .error (.mixedEntityTypes (typeOf path) other)
    | none => .ok ((ofPath path).populate (paths.filterMap fieldOf?)) := by
  have hother : otherType? (typeOf path) (path :: paths) = otherType? (typeOf path) paths := by
    rw [otherType?, List.map_cons, List.find?_cons_of_neg (by simp [typeOf]), otherType?]
  rw [ofPath_eq, populate_populate, ← fields_cons, ← hother]
  rfl

theorem ofPaths_eq_ok_iff {s : Select σ} : ofPaths (path :: paths) = .ok s ↔
    (∀ q ∈ paths, typeOf q = typeOf path) ∧ s = (ofPath path).populate (paths.filterMap fieldOf?) := by
  rw [ofPaths_cons, ← otherType?_eq_none_iff]
  cases otherType? (typeOf path) paths with
  | none => simp [eq_comm]
  | some other => simp

theorem ofPaths_eq_error_iff {err : Error} : (ofPaths (path :: paths) : Except Error (Select σ)) = .error err ↔
    ∃ other, FirstOther (typeOf path) paths other ∧ err = .mixedEntityTypes (typeOf path) other := by
  simp only [ofPaths_cons, ← otherType?_eq_some_iff]
  cases otherType? (typeOf path) paths with
  | none => simp
  | some other => simp [eq_comm]

/-! ## One path after the other -/

structure Gathered where
  /-- The type of the first path, once there was one. -/
  entityType : Option String := none
  fields : List String := []

def gather (g : Gathered) (path : String) : Except Error Gathered :=
  let (type, field) := splitTypePath path
  match g.entityType with
  | none => .ok ⟨some type, g.fields ++ field.toList⟩
  | some first =>
    if first = type then .ok ⟨some first, g.fields ++ field.toList⟩ else .error (.mixedEntityTypes first type)

/-- The select of the paths, taken one after the other. -/
def ofPathsInTurn (paths : List String) : Except Error (Select σ) :=
  (paths.foldlM gather {}).map fun g => (ofType (g.entityType.getD "")).populate g.fields

theorem gather_of_eq (h : typeOf path = type) :
    gather ⟨some type, fields⟩ path = .ok ⟨some type, fields ++ (fieldOf? path).toList⟩ := by
  subst h
  exact if_pos rfl

theorem gather_of_ne (h : typeOf path ≠ type) :
    gather ⟨some type, fields⟩ path = .error (.mixedEntityTypes type (typeOf path)) := if_neg (Ne.symm h)

/-- From the second path on, the type stays and the fields are gathered, up to a path of another type. -/
theorem gather_paths (type : String) (fields paths : List String) : paths.foldlM gather ⟨some type, fields⟩ =
    match otherType? type paths with
    | some other => .error (.mixedEntityTypes type other)
    | none => .ok ⟨some type, fields ++ paths.filterMap fieldOf?⟩ := by
  induction paths generalizing fields with
  | nil => simp [otherType?, pure, Except.pure]
  | cons path paths ih =>
    rw [List.foldlM_cons, otherType?, List.map_cons]
    by_cases htype : typeOf path = type
    · rw [gather_of_eq htype, fields_cons, ← List.append_assoc,
        List.find?_cons_of_neg (by simpa [typeOf] using htype)]
      exact ih _
    · rw [gather_of_ne htype, List.find?_cons_of_pos (by simpa [typeOf] using htype)]
      rfl

theorem ofPathsInTurn_eq (paths : List String) : (ofPathsInTurn paths : Except Error (Select σ)) = ofPaths paths := by
  cases paths with
  | nil => rfl
  | cons path paths =>
    rw [ofPaths_cons, ofPath_eq, populate_populate, ofPathsInTurn]
    change (List.foldlM gather ⟨some (typeOf path), (fieldOf? path).toList⟩ paths).map _ = _
    rw [gather_paths]
    cases otherType? (typeOf path) paths <;> rfl

/-! ## The main statement -/

/-- **Several paths are selected like the first one with the fields of the others added**, where empty fields are left
out, if all of them name one type. Otherwise the type of the first path and the first other one are reported. Taking the
paths one after the other comes to the same. -/
theorem paths_selected_like_first (path : String) (paths : List String) :
    (∀ s : Select σ, ofPaths (path :: paths) = .ok s ↔ (∀ q ∈ paths, typeOf q = typeOf path) ∧
      s = (ofPath path).populate ((paths.filterMap fieldOf?).filter (!·.isEmpty))) ∧
    (∀ err, (ofPaths (path :: paths) : Except Error (Select σ)) = .error err ↔
      ∃ other, FirstOther (typeOf path) paths other ∧ err = .mixedEntityTypes (typeOf path) other) ∧
    (ofPathsInTurn (path :: paths) : Except Error (Select σ)) = ofPaths (path :: paths) ∧
    ((ofPath path : Select σ).populate ((paths.filterMap fieldOf?).filter (!·.isEmpty))).clauses =
      { entityType := typeOf path, projection := ((path :: paths).filterMap fieldOf?).filter (!·.isEmpty) } ∧
    ∀ q type field, typeOf q = type ∧ fieldOf? q = field ↔ IsTypePath q type field := by
  rw [populate_live]
  refine ⟨fun s => ofPaths_eq_ok_iff, fun err => ofPaths_eq_error_iff, ofPathsInTurn_eq _, ?_, fun q type field => ?_⟩
  · rw [ofPath_eq, populate_populate, ← fields_cons]
    rfl
  · rw [← splitTypePath_eq_iff, ← Prod.mk.injEq, typeOf, fieldOf?]

/-- A path without a type is of another type, and a dot at the end is followed by an empty field. -/
example : (ofPaths ["Task.", "Task.parent.name", ".name", "Note"] : Except Error (Select Empty)) =
    .error (.mixedEntityTypes "Task" "") := rfl

end Select

end EntityQuery
