import EntityQuery.Path.SortKey
import EntityQuery.Proofs.Backtracking
import EntityQuery.Proofs.Names
import Mathlib.Data.List.TakeWhile

/-!
# The grammar of sort texts

Up to white space around it, a sort text is a word, or a word, white space and a direction word (`Spells`). These texts
and no others are read, each as the key that it spells (`read_eq_ok_iff`). The text of a key on a path of plain names is
one of them, with the direction spelled out or left out (`spells_toText`, `spells_clause`), and so it is read back.

`sortPattern` is the same grammar as a regular expression. Its optional part is a shortest run between two runs of white
space, so there are many ways to divide a text, but all that is said after the word is taken by the first that leads to
the end (`captures_of_firstWord`).
-/

namespace EntityQuery

open Text

/-! ## Paths of one word -/

/-- A path of at least one name, and no name with a dot or a blank in it. -/
structure Path.IsWord (p : Path) : Prop where
  segments_ne_nil : p.segments ≠ []
  proper : ∀ segment ∈ p.segments, ProperSegment segment
  not_blank : ∀ segment ∈ p.segments, ∀ c ∈ segment.toList, isBlankChar c = false

instance (p : Path) : Decidable p.IsWord :=
  decidable_of_iff
    (p.segments ≠ [] ∧ p.segments.all (fun segment => decide (Path.ProperSegment segment)) = true ∧
      p.segments.all (fun segment => segment.toList.all (!isBlankChar ·)) = true)
    ⟨fun h => ⟨h.1, by simpa using h.2.1, by simpa using h.2.2⟩,
      fun h => ⟨h.segments_ne_nil, by simpa using h.proper, by simpa using h.not_blank⟩⟩

namespace Path.IsWord

variable {p : Path}

theorem toText_ne_nil (h : p.IsWord) : p.toText.toList ≠ [] :=
  Path.toText_ne_nil (fun segment hsegment => (h.proper segment hsegment).1) h.segments_ne_nil

theorem toText_not_blank (h : p.IsWord) : ∀ c ∈ p.toText.toList, isBlankChar c = false :=
  forall_mem_toText (by decide) h.not_blank

theorem ofText_toText (h : p.IsWord) : ofText (String.ofList p.toText.toList) = p := by
  rw [String.ofList_toList, Path.ofText_toText h.proper]

end Path.IsWord

namespace SortKey

variable {k : SortKey} {cs word after : List Char} {s said : String} {d : SortDirection}

/-! ## The grammar -/

def directionWords : List (String × SortDirection) :=
  [("asc", .ascending), ("ascending", .ascending), ("desc", .descending), ("descending", .descending)]

theorem ofKeyword?_eq_some_iff : SortDirection.ofKeyword? said = some d ↔ (said, d) ∈ directionWords := by
  unfold SortDirection.ofKeyword?
  split
  next h => rcases h with rfl | rfl <;> cases d <;> simp [directionWords]
  next hasc =>
    split
    next h => rcases h with rfl | rfl <;> cases d <;> simp [directionWords]
    next hdesc => simp_all [directionWords]

theorem directionWord_cases (h : (said, d) ∈ directionWords) :
    said.toList ≠ [] ∧ ∀ c ∈ said.toList, isBlankChar c = false := by
  have htest : directionWords.all
      (fun named => !named.1.toList.isEmpty && named.1.toList.all (!isBlankChar ·)) = true := by
    decide
  simpa using List.all_eq_true.1 htest _ h

inductive Spells : List Char → SortKey → Prop where
  | alone {word : List Char} (hne : word ≠ []) (hword : ∀ c ∈ word, isBlankChar c = false) :
      Spells word (Path.ofText (String.ofList word)).ascending
  | directed {word gap : List Char} {said : String} {d : SortDirection} (hne : word ≠ [])
      (hword : ∀ c ∈ word, isBlankChar c = false) (hgap : gap ≠ []) (hblank : ∀ c ∈ gap, isBlankChar c = true)
      (hsaid : (said, d) ∈ directionWords) :
      Spells (word ++ (gap ++ said.toList)) ⟨Path.ofText (String.ofList word), d⟩

structure FirstWord (cs word after : List Char) : Prop where
  chars : cs = word ++ after
  word_ne_nil : word ≠ []
  word_chars : ∀ c ∈ word, isBlankChar c = false
  word_whole : ∀ c ∈ after.head?, isBlankChar c = true

theorem FirstWord.takeWhile (h : FirstWord cs word after) : cs.takeWhile (!isBlankChar ·) = word := by
  rw [h.chars]
  exact takeWhile_run (fun c hc => by simp [h.word_chars c hc]) fun c hc => by simp [h.word_whole c hc]

theorem FirstWord.dropWhile (h : FirstWord cs word after) : cs.dropWhile (!isBlankChar ·) = after := by
  rw [h.chars]
  exact dropWhile_run (fun c hc => by simp [h.word_chars c hc]) fun c hc => by simp [h.word_whole c hc]

theorem firstWord_trimChars (h : trimChars cs ≠ []) : ∃ word after, FirstWord (trimChars cs) word after := by
  refine ⟨(trimChars cs).takeWhile (!isBlankChar ·), (trimChars cs).dropWhile (!isBlankChar ·), ?_, ?_, ?_, ?_⟩
  · exact List.takeWhile_append_dropWhile.symm
  · obtain ⟨c, rest, hcs⟩ := List.exists_cons_of_ne_nil h
    have hfront : trimFront (trimChars cs) = trimChars cs :=
      trimFront_trimBack_of_front (trimFront_trimFront cs)
    have hc : isBlankChar c = false := trimFront_eq_self_iff.1 hfront c (by simp [hcs])
    simp [hcs, hc]
  · intro c hc
    simpa using List.mem_takeWhile_imp hc
  · intro c hc
    simpa using head?_dropWhile (!isBlankChar ·) (trimChars cs) c hc

/-- What is said after the word for a direction: nothing for the usual one, or a direction word. -/
def SaysDirection (cs : List Char) (d : SortDirection) : Prop :=
  cs = [] ∧ d = .ascending ∨ ∃ said, (said, d) ∈ directionWords ∧ cs = said.toList

theorem Spells.exists_firstWord (h : Spells cs k) :
    ∃ word after, FirstWord cs word after ∧ k.path = .ofText (String.ofList word) ∧
      SaysDirection (trimChars after) k.direction := by
  cases h with
  | alone hne hword =>
    exact ⟨cs, [], ⟨(List.append_nil cs).symm, hne, hword, fun _ hc => by cases hc⟩, rfl, .inl ⟨rfl, rfl⟩⟩
  | @directed word gap said d hne hword hgap hblank hsaid =>
    obtain ⟨hsaidne, hsaidword⟩ := directionWord_cases hsaid
    have htrim : trimChars (gap ++ said.toList) = said.toList := by
      rw [trimChars, trimFront_append_of_blank hblank, ← trimChars, trimChars_of_word hsaidne hsaidword]
    refine ⟨word, gap ++ said.toList, ⟨rfl, hne, hword, ?_⟩, rfl, .inr ⟨said, hsaid, htrim⟩⟩
    obtain ⟨c, more, rfl⟩ := List.exists_cons_of_ne_nil hgap
    intro c hc
    cases hc
    exact hblank _ List.mem_cons_self

theorem Spells.trimmed (h : Spells cs k) : trimChars cs = cs := by
  cases h with
  | alone hne hword => exact trimChars_of_word hne hword
  | directed hne hword _ _ hsaid =>
    obtain ⟨hsaidne, hsaidword⟩ := directionWord_cases hsaid
    rw [trimChars, trimFront_of_word hne hword, ← List.append_assoc, trimBack_of_word hsaidne hsaidword]

theorem FirstWord.trimChars_after (h : FirstWord cs word after) (hcs : trimBack cs = cs) :
    trimChars after = trimFront after := by
  rw [h.chars, trimBack_append_of_not_blank h.word_chars] at hcs
  rw [trimChars, ← trimFront_trimBack, List.append_cancel_left hcs]

theorem FirstWord.spells (h : FirstWord cs word after) (hcs : trimBack cs = cs)
    (hd : SaysDirection (trimChars after) d) : Spells cs ⟨.ofText (String.ofList word), d⟩ := by
  have hafter := h.trimChars_after hcs
  rw [h.chars] at hcs ⊢
  rcases hd with ⟨hnil, rfl⟩ | ⟨said, hsaid, hdirected⟩
  · have hnone : after = [] := by
      rw [trimBack_append_of_not_blank h.word_chars] at hcs
      rw [← List.append_cancel_left hcs]
      exact trimBack_eq_nil_iff.2 (trimChars_eq_nil_iff.1 hnil)
    rw [hnone, List.append_nil]
    exact .alone h.word_ne_nil h.word_chars
  · have hsplit : after.takeWhile isBlankChar ++ said.toList = after := by
      rw [← hdirected, hafter]
      exact List.takeWhile_append_dropWhile
    have hgap : after.takeWhile isBlankChar ≠ [] := by
      intro hnone
      rw [hnone, List.nil_append] at hsplit
      obtain ⟨hne, hword⟩ := directionWord_cases hsaid
      obtain ⟨c, more, hc⟩ := List.exists_cons_of_ne_nil hne
      have hblank := h.word_whole c (by simp [← hsplit, hc])
      rw [hword c (by simp [hc])] at hblank
      cases hblank
    rw [← hsplit]
    exact .directed h.word_ne_nil h.word_chars hgap (fun c hc => List.mem_takeWhile_imp hc) hsaid

/-! ## Reading -/

theorem read_of_firstWord (h : FirstWord (trimChars s.toList) word after) :
    read s = (readDirection s (trimChars after)).map fun d => ⟨.ofText (String.ofList word), d⟩ := by
  rw [read, h.trimChars_after (trimBack_trimBack _)]
  simp [h.takeWhile, h.dropWhile, h.word_ne_nil]

theorem read_of_blank (h : trimChars s.toList = []) : read s = .error (.unknownSortDirection s) := by
  rw [read]
  simp [h]

theorem readDirection_of_saysDirection (h : SaysDirection cs d) (whole : String) : readDirection whole cs = .ok d := by
  rcases h with ⟨rfl, rfl⟩ | ⟨said, hsaid, rfl⟩
  · rfl
  · obtain ⟨hne, hword⟩ := directionWord_cases hsaid
    have hline : '\n' ∉ said.toList := fun hmem => absurd (hword _ hmem) (by decide)
    rw [readDirection]
    simp [hline, ofKeyword?_eq_some_iff.2 hsaid, show said ≠ "" by simpa using hne]

theorem not_saysDirection_of_newline (h : '\n' ∈ cs) : ¬ SaysDirection cs d := by
  rintro (⟨rfl, -⟩ | ⟨said, hsaid, rfl⟩)
  · cases h
  · exact absurd ((directionWord_cases hsaid).2 _ h) (by decide)

theorem readDirection_of_not_saysDirection (h : ∀ d, ¬ SaysDirection cs d) (whole : String) :
    readDirection whole cs = .error (.unknownSortDirection (if '\n' ∈ cs then whole else String.ofList cs)) := by
  have hne : cs ≠ [] := fun hnil => h .ascending (.inl ⟨hnil, rfl⟩)
  have hnone : SortDirection.ofKeyword? (String.ofList cs) = none := by
    rw [Option.eq_none_iff_forall_ne_some]
    intro d hd
    exact h d (.inr ⟨String.ofList cs, ofKeyword?_eq_some_iff.1 hd, String.toList_ofList.symm⟩)
  rw [readDirection]
  by_cases hline : '\n' ∈ cs
  · simp [hne, hline]
  · simp [hne, hline, hnone]

theorem read_eq_error_iff {err : Error} (hfirst : FirstWord (trimChars s.toList) word after) :
    read s = .error err ↔ (∀ d, ¬ SaysDirection (trimChars after) d) ∧
      err = .unknownSortDirection (if '\n' ∈ trimChars after then s else String.ofList (trimChars after)) := by
  rw [read_of_firstWord hfirst]
  by_cases hdirected : ∃ d, SaysDirection (trimChars after) d
  · obtain ⟨d, hd⟩ := hdirected
    rw [readDirection_of_saysDirection hd]
    constructor
    · intro h
      cases h
    · rintro ⟨hnone, -⟩
      exact absurd hd (hnone d)
  · rw [not_exists] at hdirected
    rw [readDirection_of_not_saysDirection hdirected]
    exact ⟨fun h => ⟨hdirected, (Except.error.inj h).symm⟩, fun h => congrArg Except.error h.2.symm⟩

theorem read_eq_ok_iff : read s = .ok k ↔ Spells (trimChars s.toList) k := by
  constructor
  · intro h
    have hne : trimChars s.toList ≠ [] := by
      intro hnil
      rw [read_of_blank hnil] at h
      cases h
    obtain ⟨word, after, hfirst⟩ := firstWord_trimChars hne
    by_cases hdirected : ∃ d, SaysDirection (trimChars after) d
    · obtain ⟨d, hd⟩ := hdirected
      rw [read_of_firstWord hfirst, readDirection_of_saysDirection hd] at h
      cases h
      exact hfirst.spells (trimBack_trimBack _) hd
    · rw [(read_eq_error_iff hfirst).2 ⟨not_exists.1 hdirected, rfl⟩] at h
      cases h
  · intro h
    obtain ⟨word, after, hfirst, hpath, hd⟩ := h.exists_firstWord
    rw [read_of_firstWord hfirst, readDirection_of_saysDirection hd, ← hpath]
    rfl

/-! ## The pattern -/

def directionPattern : Regex := .named "direction" (.seq (.one (!isBlankChar ·)) (.lazy (· != '\n')))

def saidPattern : Regex := .seq (.optional (.seq (.oneOrMore isBlankChar) directionPattern)) .blankEnd

def sortPattern : Regex :=
  .seq (.greedy isBlankChar) (.seq (.named "path" (.oneOrMore (!isBlankChar ·))) saidPattern)

def matchSort (s : String) : Except Error SortKey :=
  match sortPattern.captures s.toList with
  | none => .error (.unknownSortDirection s)
  | some groups =>
    let path := Path.ofText (String.ofList (Regex.groupText groups "path"))
    match groups.lookup "direction" with
    | none => .ok path.ascending
    | some said =>
      match SortDirection.ofKeyword? (String.ofList said) with
      | none => .error (.unknownSortDirection (String.ofList said))
      | some d => .ok ⟨path, d⟩

theorem captures_direction (h : trimFront cs = cs) :
    (Regex.seq directionPattern .blankEnd).captures cs =
      if cs = [] ∨ '\n' ∈ trimBack cs then none else some [("direction", trimBack cs)] := by
  cases cs with
  | nil => rfl
  | cons c rest =>
    have hc : isBlankChar c = false := trimFront_eq_self_iff.1 h c rfl
    have hne : '\n' ≠ c := by
      rintro rfl
      revert hc
      decide
    have hline : (trimBack rest).all (· != '\n') = true ↔ '\n' ∉ trimBack rest := by simp [List.all_bne']
    rw [Regex.captures_seq, directionPattern]
    simp only [Regex.attempts, hc, Bool.not_false, if_true, List.flatMap_singleton, List.map_map]
    refine (Regex.captures_tail (p := (· != '\n')) "direction" [c] rest).trans ?_
    rw [trimBack_cons_of_not_blank hc]
    by_cases hall : '\n' ∈ trimBack rest
    · rw [if_neg fun h => hline.1 h hall, if_pos (.inr (List.mem_cons_of_mem c hall))]
    · rw [if_pos (hline.2 hall), if_neg (by simp [hne, hall])]
      rfl

theorem captures_said (h : ∀ c ∈ after.head?, isBlankChar c = true) :
    saidPattern.captures after =
      if '\n' ∈ trimChars after then none
      else some (if trimChars after = [] then [] else [("direction", trimChars after)]) := by
  have hrefuses : (Regex.seq directionPattern .blankEnd).Refuses isBlankChar :=
    .seq (.named (.seq (Regex.refuses_one fun c hc => by simp [hc]) _) _) _
  rw [saidPattern, Regex.captures_optional, Regex.captures_seq_assoc, Regex.captures_oneOrMore hrefuses]
  change ((if _ then none else Regex.captures _ (trimFront after)).or _) = _
  rw [captures_direction (trimFront_trimFront after), Regex.captures_blankEnd, ← trimChars]
  -- the optional part leads nowhere after blanks alone; after anything else the end cannot be reached without it
  by_cases hblank : ∀ c ∈ after, isBlankChar c = true
  · have hfront := trimFront_eq_nil_iff.2 hblank
    have htrim := trimChars_eq_nil_iff.2 hblank
    have hall := List.all_eq_true.2 hblank
    simp only [hfront, htrim, hall]
    split <;> rfl
  · have hgap : after.takeWhile isBlankChar ≠ [] := by
      cases after with
      | nil => simp at hblank
      | cons c rest => simp [h c rfl]
    have hfront : trimFront after ≠ [] := fun hnil => hblank (trimFront_eq_nil_iff.1 hnil)
    have htrim : trimChars after ≠ [] := fun hnil => hblank (trimChars_eq_nil_iff.1 hnil)
    have hall : ¬ after.all isBlankChar = true := by rwa [List.all_eq_true]
    by_cases hline : '\n' ∈ trimChars after
    · simp only [hgap, hfront, hline, hall]
      rfl
    · simp only [hgap, hfront, hline, hall, htrim]
      rfl

theorem refuses_path : (Regex.seq (.named "path" (.oneOrMore (!isBlankChar ·))) saidPattern).Refuses isBlankChar :=
  .seq (.named (.seq (Regex.refuses_one fun c hc => by simp [hc]) _) _) _

theorem captures_of_firstWord (h : FirstWord (trimChars cs) word after) :
    sortPattern.captures cs =
      if '\n' ∈ trimChars after then none
      else some (("path", word) :: if trimChars after = [] then [] else [("direction", trimChars after)]) := by
  obtain ⟨back, hback, hfront⟩ := exists_eq_trimBack_append (trimFront cs)
  rw [← trimChars, h.chars, List.append_assoc] at hfront
  have hwhole : ∀ c ∈ (after ++ back).head?, isBlankChar c = true := by
    intro c hc
    rw [List.head?_append] at hc
    cases after with
    | nil => exact hback c (List.mem_of_mem_head? hc)
    | cons d rest => exact h.word_whole c hc
  have hfirst : FirstWord (trimFront cs) word (after ++ back) := ⟨hfront, h.word_ne_nil, h.word_chars, hwhole⟩
  have hsolid : saidPattern.Refuses (!isBlankChar ·) := by
    have hnot (c : Char) (hc : (!isBlankChar c) = true) : isBlankChar c = false := by simpa using hc
    exact .optional (.seq (.seq (Regex.refuses_one hnot) _) _) (.skip Regex.refuses_atEnd hnot)
  rw [sortPattern, Regex.captures_skip refuses_path, ← trimFront, Regex.captures_word hsolid, hfirst.takeWhile,
    hfirst.dropWhile, captures_said hwhole, trimChars_append_of_blank hback, if_neg h.word_ne_nil]
  split <;> rfl

theorem captures_of_blank (h : trimChars cs = []) : sortPattern.captures cs = none := by
  have hfront := trimFront_eq_nil_iff.2 (trimChars_eq_nil_iff.1 h)
  rw [sortPattern, Regex.captures_skip refuses_path, ← trimFront, hfront]
  rfl

/-- **The groups of the first match are the parts that are read.** -/
theorem matchSort_eq (s : String) : matchSort s = read s := by
  by_cases hnil : trimChars s.toList = []
  · rw [matchSort, captures_of_blank hnil, read_of_blank hnil]
  · obtain ⟨word, after, h⟩ := firstWord_trimChars hnil
    rw [matchSort, captures_of_firstWord h, read_of_firstWord h, readDirection]
    simp only [List.isEmpty_iff, List.contains_iff_mem]
    by_cases hline : '\n' ∈ trimChars after
    · have hnone : trimChars after ≠ [] := List.ne_nil_of_mem hline
      rw [if_pos hline, if_neg hnone, if_pos hline]
      rfl
    · rw [if_neg hline, if_neg hline]
      by_cases hnone : trimChars after = []
      · rw [if_pos hnone, if_pos hnone]
        rfl
      · rw [if_neg hnone, if_neg hnone]
        change (match SortDirection.ofKeyword? (String.ofList (trimChars after)) with
          | none => _
          | some d => _) = _
        cases SortDirection.ofKeyword? (String.ofList (trimChars after)) <;> rfl

/-! ## The texts of a key -/

theorem spells_toText (h : k.path.IsWord) : Spells k.toText.toList k := by
  have hsaid : (k.direction.keyword, k.direction) ∈ directionWords :=
    ofKeyword?_eq_some_iff.1 (SortDirection.ofKeyword?_keyword k.direction)
  have hblank : ∀ c ∈ [' '], isBlankChar c = true := List.forall_mem_singleton.2 rfl
  have hkey := Spells.directed h.toText_ne_nil h.toText_not_blank (List.cons_ne_nil _ _) hblank hsaid
  rw [h.ofText_toText] at hkey
  rw [toText, String.toList_append, String.toList_append, List.append_assoc]
  exact hkey

theorem clause_descending (p : Path) : p.descending.clause = p.descending.toText := by
  change p.toText ++ (" " ++ "descending") = p.toText ++ " " ++ "descending"
  rw [String.append_assoc]

theorem spells_clause (h : k.path.IsWord) : Spells k.clause.toList k := by
  obtain ⟨path, direction⟩ := k
  cases direction with
  | ascending =>
    have hkey := Spells.alone h.toText_ne_nil h.toText_not_blank
    rw [h.ofText_toText] at hkey
    exact hkey
  | descending =>
    change Spells path.descending.clause.toList path.descending
    rw [clause_descending]
    exact spells_toText h

theorem Spells.read_between {text : String} (h : Spells text.toList k) {front back : String}
    (hfront : isBlank front = true) (hback : isBlank back = true) : read (front ++ text ++ back) = .ok k := by
  rw [read_eq_ok_iff, trimChars_between hfront hback, h.trimmed]
  exact h

/-! ## The main statement -/

theorem said_ne_text (h : FirstWord (trimChars s.toList) word after) : String.ofList (trimChars after) ≠ s := by
  intro heq
  have hlength : (trimChars after).length = s.toList.length := by
    rw [← heq, String.toList_ofList]
  have hwhole := length_trimChars_le s.toList
  have hword := List.length_pos_iff.2 h.word_ne_nil
  have hafter := length_trimChars_le after
  rw [h.chars, List.length_append] at hwhole
  omega

/-- **The texts that spell a key are read, and no others.** The whole text is refused if there is no word or what is
said after it goes over several lines, and otherwise what is said is. Matching the pattern comes to the same. In
particular the text of a key on a path of plain names is read back, also as it stands in a list of sort keys, with any
white space around. -/
theorem sort_texts_read_by_grammar (s : String) :
    (∀ k, read s = .ok k ↔ Spells (trimChars s.toList) k) ∧
    (read s = .error (.unknownSortDirection s) ↔ trimChars s.toList = [] ∨
      ∃ word after, FirstWord (trimChars s.toList) word after ∧ '\n' ∈ trimChars after) ∧
    (∀ err, read s = .error err → err ≠ .unknownSortDirection s →
      ∃ word after, FirstWord (trimChars s.toList) word after ∧
        err = .unknownSortDirection (String.ofList (trimChars after))) ∧
    matchSort s = read s ∧
    ∀ k front back, k.path.IsWord → isBlank front = true → isBlank back = true →
      s = front ++ k.toText ++ back ∨ s = front ++ k.clause ++ back → read s = .ok k := by
  refine ⟨fun k => read_eq_ok_iff, ⟨fun h => ?_, ?_⟩, fun err herr hne => ?_, matchSort_eq s, ?_⟩
  · by_cases hnil : trimChars s.toList = []
    · exact .inl hnil
    · obtain ⟨word, after, hfirst⟩ := firstWord_trimChars hnil
      refine .inr ⟨word, after, hfirst, ?_⟩
      have htext := ((read_eq_error_iff hfirst).1 h).2
      by_contra hline
      rw [if_neg hline] at htext
      exact said_ne_text hfirst (Error.unknownSortDirection.inj htext).symm
  · rintro (hnil | ⟨word, after, hfirst, hline⟩)
    · exact read_of_blank hnil
    · exact (read_eq_error_iff hfirst).2 ⟨fun d => not_saysDirection_of_newline hline, by rw [if_pos hline]⟩
  · have hnil : trimChars s.toList ≠ [] := by
      intro hnil
      rw [read_of_blank hnil] at herr
      exact hne (Except.error.inj herr).symm
    obtain ⟨word, after, hfirst⟩ := firstWord_trimChars hnil
    have htext := ((read_eq_error_iff hfirst).1 herr).2
    by_cases hline : '\n' ∈ trimChars after
    · rw [if_pos hline] at htext
      exact absurd htext hne
    · rw [if_neg hline] at htext
      exact ⟨word, after, hfirst, htext⟩
  · rintro k front back hword hfront hback (rfl | rfl)
    · exact (spells_toText hword).read_between hfront hback
    · exact (spells_clause hword).read_between hfront hback

/-- What is said in two words is refused as one. -/
example : read "name very  odd " = .error (.unknownSortDirection "very  odd") := rfl

/-- A key in the middle of white space, with a line break at the end. -/
theorem padded_key_read_back :
    read "\tparent.name descending \n" = .ok (Path.ofText "parent.name").descending :=
  (sort_texts_read_by_grammar "\tparent.name descending \n").2.2.2.2 _ "\t" " \n"
    (by decide) rfl rfl (.inl rfl)

/-- A path without a name has no word for a text: its key is read as another one, or is no key. -/
theorem nameless_key_not_read_back :
    (∀ segment ∈ (Path.ofText "").segments, segment ≠ "" ∧ ∀ c ∈ segment.toList, c ≠ '.' ∧ isBlankChar c = false) ∧
    read (Path.ofText "").ascending.toText = .ok (Path.ofText "ascending").ascending ∧
    (Path.ofText "ascending").ascending ≠ (Path.ofText "").ascending ∧
    read (Path.ofText "").ascending.clause = .error (.unknownSortDirection "") :=
  ⟨by decide, rfl, by decide, rfl⟩

end SortKey

end EntityQuery
