import EntityQuery.Value

/-!
# Attribute paths

The left-hand side of a predicate: attribute names joined by dots, such as `parent.status.name`.
Main facts: `append_ofText` (appending is reading with a dot between) and `ofText_toText` (a path of
proper names is read back from its text).
-/

namespace EntityQuery

structure Path where
  segments : List String
  deriving DecidableEq

namespace Path

/-- The pieces of a text between dots; empty pieces are dropped. -/
def splitSegments (s : String) : List String :=
  ((s.toList.splitOn '.').filter (!·.isEmpty)).map String.ofList

def ofText (s : String) : Path := ⟨splitSegments s⟩

def append (p : Path) (s : String) : Path := ⟨p.segments ++ splitSegments s⟩

/-- The last name narrowed to one entity type, `parent[Project]`; without a last name the type
stands alone. -/
def cast (p : Path) (entityType : String) : Path :=
  match p.segments.getLast? with
  | some last => ⟨p.segments.dropLast ++ [last ++ "[" ++ entityType ++ "]"]⟩
  | none => ⟨["[" ++ entityType ++ "]"]⟩

def last? (p : Path) : Option String := p.segments.getLast?

def isEmpty (p : Path) : Bool := p.segments.isEmpty

def identifierField : String := "id"

def identifier (p : Path) : Path := p.append identifierField

def toText (p : Path) : String := ".".intercalate p.segments

instance : ToString Path := ⟨toText⟩

/-! ## Paths and their texts -/

theorem splitSegments_append_dot (s t : String) :
    splitSegments (s ++ "." ++ t) = splitSegments s ++ splitSegments t := by
  have h : (s ++ "." ++ t).toList = s.toList ++ '.' :: t.toList := by simp
  rw [splitSegments, h, List.splitOn_append_cons_self, List.filter_append, List.map_append]
  rfl

theorem append_ofText (s t : String) : (ofText s).append t = ofText (s ++ "." ++ t) := by
  rw [append, ofText, ofText, splitSegments_append_dot]

theorem segments_identifier (p : Path) : p.identifier.segments = p.segments ++ ["id"] := by
  rw [identifier, append]
  congr 1

/-- A name that can stand between dots. -/
def ProperSegment (s : String) : Prop := s ≠ "" ∧ '.' ∉ s.toList

instance (s : String) : Decidable (ProperSegment s) :=
  inferInstanceAs (Decidable (s ≠ "" ∧ '.' ∉ s.toList))

theorem ne_empty_of_mem_splitSegments {s seg : String} (h : seg ∈ splitSegments s) :
    seg ≠ "" := by
  obtain ⟨cs, hcs, rfl⟩ := List.mem_map.1 h
  have hne := (List.mem_filter.1 hcs).2
  intro heq
  have hnil : cs = [] := by simpa using congrArg String.toList heq
  simp [hnil] at hne

theorem splitSegments_intercalate {segs : List String} (h : ∀ seg ∈ segs, ProperSegment seg) :
    splitSegments (".".intercalate segs) = segs := by
  by_cases hnil : segs = []
  · subst hnil
    rfl
  have hmap : segs.map String.toList ≠ [] := by simpa using hnil
  have hdots : ∀ cs ∈ segs.map String.toList, '.' ∉ cs := by
    intro cs hcs
    obtain ⟨seg, hseg, rfl⟩ := List.mem_map.1 hcs
    exact (h seg hseg).2
  have hlive : ∀ cs ∈ segs.map String.toList, (!cs.isEmpty) = true := by
    intro cs hcs
    obtain ⟨seg, hseg, rfl⟩ := List.mem_map.1 hcs
    have hne : seg.toList ≠ [] := by simpa using (h seg hseg).1
    simpa using hne
  have htext : (".".intercalate segs).toList = ['.'].intercalate (segs.map String.toList) := by
    rw [String.toList_intercalate]
    rfl
  rw [splitSegments, htext, List.splitOn_intercalate _ hdots hmap,
    List.filter_eq_self.2 hlive]
  simp

theorem ofText_toText {p : Path} (h : ∀ seg ∈ p.segments, ProperSegment seg) :
    ofText p.toText = p := by
  rw [ofText, toText, splitSegments_intercalate h]

end Path

end EntityQuery
