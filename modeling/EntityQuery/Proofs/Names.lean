import EntityQuery.Text.Word
import EntityQuery.Path
import EntityQuery.Operator
import EntityQuery.Proofs.Words

/-!
# Names

Entity types, attributes and field keys are made of word characters, with dots between the names of a path
and square brackets around the type a name is narrowed to. Such characters mean nothing to a scan
(`isNameChar_plain`), so a name is balanced and one word of the text it stands in, and a path of proper
segments is known by its text (`Path.toText_inj`).
-/

namespace EntityQuery

open RawText

def isSegmentChar (c : Char) : Bool := Text.isWordChar c || c == '[' || c == ']'

/-- A character of a name: of a segment, or a dot between segments. -/
def isNameChar (c : Char) : Bool := isSegmentChar c || c == '.'

/-- A word, or several with dots between them. -/
def IsName (s : String) : Prop := s ≠ "" ∧ ∀ c ∈ s.toList, isNameChar c = true

/-- One word, perhaps narrowed to a type in square brackets. -/
def IsSegment (s : String) : Prop := s ≠ "" ∧ ∀ c ∈ s.toList, isSegmentChar c = true

instance (s : String) : Decidable (IsName s) :=
  decidable_of_iff (s ≠ "" ∧ s.toList.all isNameChar = true) (and_congr_right fun _ => List.all_eq_true)

instance (s : String) : Decidable (IsSegment s) :=
  decidable_of_iff (s ≠ "" ∧ s.toList.all isSegmentChar = true) (and_congr_right fun _ => List.all_eq_true)

def Path.IsNamed (p : Path) : Prop := ∀ s ∈ p.segments, IsSegment s

instance (p : Path) : Decidable p.IsNamed := inferInstanceAs (Decidable (∀ s ∈ p.segments, IsSegment s))

/-- The words of the grammar that cannot be paths on their own. -/
def reservedWords : List (List Char) :=
  [Connective.and.keyword.toList, Connective.or.keyword.toList, negationKeyword.toList]

theorem isNameChar_punctuation :
    ∀ c ∈ [' ', '"', '(', ')', ',', '=', '\\'], isNameChar c = false := by
  have htest : [' ', '"', '(', ')', ',', '=', '\\'].all (fun c => !isNameChar c) = true := by
    decide
  intro c hc
  simpa using List.all_eq_true.1 htest c hc

theorem isNameChar_ne {c d : Char} (h : isNameChar c = true)
    (hd : d ∈ [' ', '"', '(', ')', ',', '=', '\\']) : c ≠ d := by
  rintro rfl
  rw [isNameChar_punctuation c hd] at h
  cases h

theorem isNameChar_plain {c : Char} (h : isNameChar c = true) : c ≠ '"' ∧ c ≠ '(' ∧ c ≠ ')' :=
  ⟨isNameChar_ne h (by simp), isNameChar_ne h (by simp), isNameChar_ne h (by simp)⟩

theorem isNameChar_of_isSegmentChar {c : Char} (h : isSegmentChar c = true) : isNameChar c = true := by
  rw [isNameChar, h, Bool.true_or]

section

variable {cs : List Char} (h : ∀ c ∈ cs, isNameChar c = true)
include h

theorem balanced_of_isNameChar : Balanced cs := balanced_of_plain fun c hc => isNameChar_plain (h c hc)

theorem not_mem_of_isNameChar {d : Char} (hd : d ∈ [' ', '"', '(', ')', ',', '=', '\\']) : d ∉ cs :=
  fun hmem => isNameChar_ne (h d hmem) hd rfl

theorem words_of_isNameChar : words cs = [cs] :=
  words_of_no_blank (not_mem_of_isNameChar h (by simp))

end

/-! ## Paths -/

theorem mem_intercalate {sep : List Char} {parts : List (List Char)} {c : Char}
    (h : c ∈ sep.intercalate parts) : c ∈ sep ∨ ∃ part ∈ parts, c ∈ part := by
  induction parts with
  | nil => simp at h
  | cons part rest ih =>
    cases rest with
    | nil =>
      rw [List.intercalate_singleton] at h
      exact .inr ⟨part, by simp, h⟩
    | cons next rest =>
      rw [List.intercalate_cons_cons, List.append_assoc, List.mem_append, List.mem_append] at h
      rcases h with h | h | h
      · exact .inr ⟨part, by simp, h⟩
      · exact .inl h
      · rcases ih h with h | ⟨q, hq, hc⟩
        · exact .inl h
        · exact .inr ⟨q, by simp [hq], hc⟩

theorem forall_mem_intercalate {P : Char → Prop} {sep : String} {parts : List String} (hsep : ∀ c ∈ sep.toList, P c)
    (h : ∀ part ∈ parts, ∀ c ∈ part.toList, P c) : ∀ c ∈ (sep.intercalate parts).toList, P c := by
  intro c hc
  rw [String.toList_intercalate] at hc
  rcases mem_intercalate hc with hc | ⟨chars, hchars, hc⟩
  · exact hsep c hc
  · obtain ⟨part, hpart, rfl⟩ := List.mem_map.1 hchars
    exact h part hpart c hc

theorem not_mem_intercalate {d : Char} {sep : String} {parts : List String} (hsep : d ∉ sep.toList)
    (h : ∀ part ∈ parts, d ∉ part.toList) : d ∉ (sep.intercalate parts).toList := by
  intro hd
  refine forall_mem_intercalate (P := (· ≠ d)) (fun c hc => ?_) (fun part hpart c hc => ?_) d hd rfl
  · exact ne_of_mem_of_not_mem hc hsep
  · exact ne_of_mem_of_not_mem hc (h part hpart)

theorem intercalate_ne_nil {sep part : List Char} (rest : List (List Char)) (h : part ≠ []) :
    sep.intercalate (part :: rest) ≠ [] := by
  cases rest with
  | nil => rwa [List.intercalate_singleton]
  | cons next rest => simp [List.intercalate_cons_cons, h]

namespace Path

variable {p q : Path}

theorem toList_toText (p : Path) : p.toText.toList = ['.'].intercalate (p.segments.map String.toList) := by
  rw [toText, String.toList_intercalate]
  rfl

theorem forall_mem_toText {P : Char → Prop} (hdot : P '.') (h : ∀ s ∈ p.segments, ∀ c ∈ s.toList, P c) :
    ∀ c ∈ p.toText.toList, P c :=
  forall_mem_intercalate (by simpa using hdot) h

theorem toText_ne_nil (h : ∀ s ∈ p.segments, s ≠ "") (hne : p.segments ≠ []) : p.toText.toList ≠ [] := by
  rw [toList_toText]
  obtain ⟨s, segments, hsegments⟩ := List.exists_cons_of_ne_nil hne
  have hs : s.toList ≠ [] := by
    simpa using h s (by simp [hsegments])
  rw [hsegments, List.map_cons]
  exact intercalate_ne_nil _ hs

theorem IsNamed.isNameChar (h : p.IsNamed) : ∀ c ∈ p.toText.toList, isNameChar c = true :=
  forall_mem_toText (by decide) fun s hs c hc => isNameChar_of_isSegmentChar ((h s hs).2 c hc)

theorem IsNamed.properSegment (h : p.IsNamed) : ∀ s ∈ p.segments, ProperSegment s := by
  intro s hs
  refine ⟨(h s hs).1, fun hdot => ?_⟩
  have := (h s hs).2 '.' hdot
  exact absurd this (by decide)

theorem IsNamed.toText_inj (hp : p.IsNamed) (hq : q.IsNamed) (h : p.toText = q.toText) : p = q := by
  rw [← ofText_toText hp.properSegment, h, ofText_toText hq.properSegment]

theorem IsNamed.toText_ne_nil (h : p.IsNamed) (hne : p.segments ≠ []) : p.toText.toList ≠ [] :=
  Path.toText_ne_nil (fun s hs => (h s hs).1) hne

/-! ### Paths from texts -/

theorem mem_of_mem_splitOn {d : Char} {cs piece : List Char} (h : piece ∈ cs.splitOn d) :
    ∀ c ∈ piece, c ∈ cs ∧ c ≠ d := by
  induction cs generalizing piece with
  | nil =>
    rw [List.splitOn_nil, List.mem_singleton] at h
    rw [h]
    exact List.forall_mem_nil _
  | cons x cs ih =>
    obtain ⟨first, rest, hpieces⟩ := List.exists_cons_of_ne_nil (List.splitOn_ne_nil d cs)
    rw [hpieces] at ih
    -- only the first piece is touched by one more character
    have hother (hmem : piece ∈ first :: rest) : ∀ c ∈ piece, c ∈ x :: cs ∧ c ≠ d := fun c hc =>
      ⟨List.mem_cons_of_mem x (ih hmem c hc).1, (ih hmem c hc).2⟩
    rw [List.splitOn_cons_eq_if_modifyHead, hpieces] at h
    split at h
    · rcases List.mem_cons.1 h with rfl | hmem
      · exact List.forall_mem_nil _
      · exact hother hmem
    next hx =>
      rw [List.modifyHead_cons] at h
      rcases List.mem_cons.1 h with rfl | hmem
      · rw [List.forall_mem_cons]
        exact ⟨⟨List.mem_cons_self, by simpa using hx⟩, fun c hc =>
          ⟨List.mem_cons_of_mem x (ih List.mem_cons_self c hc).1, (ih List.mem_cons_self c hc).2⟩⟩
      · exact hother (List.mem_cons_of_mem first hmem)

theorem mem_of_mem_ofText {s segment : String} (h : segment ∈ (ofText s).segments) :
    ∀ c ∈ segment.toList, c ∈ s.toList ∧ c ≠ '.' := by
  obtain ⟨piece, hpiece, rfl⟩ := List.mem_map.1 h
  rw [String.toList_ofList]
  exact mem_of_mem_splitOn (List.mem_filter.1 hpiece).1

theorem isNamed_ofText {s : String} (h : ∀ c ∈ s.toList, EntityQuery.isNameChar c = true) : (ofText s).IsNamed := by
  intro segment hsegment
  refine ⟨ne_empty_of_mem_splitSegments hsegment, fun c hc => ?_⟩
  obtain ⟨hmem, hdot⟩ := mem_of_mem_ofText hsegment c hc
  simpa [EntityQuery.isNameChar, hdot] using h c hmem

theorem segments_ofText_ne_nil_iff {s : String} : (ofText s).segments ≠ [] ↔ ∃ c ∈ s.toList, c ≠ '.' := by
  constructor
  · intro hne
    obtain ⟨segment, segments, hsegments⟩ := List.exists_cons_of_ne_nil hne
    have hsegment : segment ∈ splitSegments s := by
      rw [show splitSegments s = segment :: segments from hsegments]
      exact List.mem_cons_self
    obtain ⟨piece, hpiece, -⟩ := List.mem_map.1 hsegment
    obtain ⟨hsplit, hlive⟩ := List.mem_filter.1 hpiece
    obtain ⟨c, rest, rfl⟩ := List.exists_cons_of_ne_nil (show piece ≠ [] by simpa using hlive)
    exact ⟨c, mem_of_mem_splitOn hsplit c List.mem_cons_self⟩
  · rintro ⟨c, hc, hdot⟩ hnone
    have hjoined : c ∈ ['.'].intercalate (s.toList.splitOn '.') := by
      rwa [List.intercalate_splitOn]
    rcases mem_intercalate hjoined with hmem | ⟨piece, hpiece, hmem⟩
    · exact hdot (List.mem_singleton.1 hmem)
    · have hlive : piece ∈ (s.toList.splitOn '.').filter (!·.isEmpty) :=
        List.mem_filter.2 ⟨hpiece, by simpa using List.ne_nil_of_mem hmem⟩
      have hsegment : String.ofList piece ∈ (ofText s).segments := List.mem_map_of_mem hlive
      rw [hnone] at hsegment
      cases hsegment

end Path

end EntityQuery
