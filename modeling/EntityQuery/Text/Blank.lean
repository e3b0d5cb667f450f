import EntityQuery.Text.Ranges

/-!
# Blank characters

The white space of the Unicode standard (property `White_Space`), texts made of nothing else, and
trimming. Main facts: `trim_eq_empty_iff` (only blank texts trim to nothing), `trimChars_trimChars`
(trimming twice is trimming once) and `trimFront_trimBack` (it does not matter which end is first).
-/

namespace EntityQuery.Text

/-- The code points with the property `White_Space`. -/
def blankRanges : Ranges :=
  [(0x09, 0x0D), (0x20, 0x20), (0x85, 0x85), (0xA0, 0xA0), (0x1680, 0x1680), (0x2000, 0x200A),
    (0x2028, 0x2029), (0x202F, 0x202F), (0x205F, 0x205F), (0x3000, 0x3000)]

/-- White space of any script, the control characters among it included. -/
def isBlankChar (c : Char) : Bool := inRanges blankRanges c.toNat

def isBlank (s : String) : Bool := s.toList.all isBlankChar

def trimFront (cs : List Char) : List Char := cs.dropWhile isBlankChar

def trimBack (cs : List Char) : List Char := (trimFront cs.reverse).reverse

def trimChars (cs : List Char) : List Char := trimBack (trimFront cs)

def trim (s : String) : String := String.ofList (trimChars s.toList)

theorem isBlankChar_of_isDigit {c : Char} (h : c.isDigit = true) : isBlankChar c = false := by
  have hdigit : 48 ≤ c.toNat ∧ c.toNat ≤ 57 := by
    simpa [Char.isDigit, UInt32.le_iff_toNat_le] using h
  have hascending : Ascending blankRanges = true := by decide
  have hapart : ∀ r ∈ blankRanges, r.2 < 48 ∨ 57 < r.1 := by decide
  rw [isBlankChar, Bool.eq_false_iff, ne_eq, inRanges_iff hascending]
  rintro ⟨r, hr, hfirst, hlast⟩
  have := hapart r hr
  omega

/-! ## Trimming -/

theorem trimFront_eq_nil_iff {cs : List Char} :
    trimFront cs = [] ↔ ∀ c ∈ cs, isBlankChar c = true := by
  induction cs with
  | nil => simp [trimFront]
  | cons c cs ih => cases h : isBlankChar c <;> simp_all [trimFront]

theorem trimBack_eq_nil_iff {cs : List Char} :
    trimBack cs = [] ↔ ∀ c ∈ cs, isBlankChar c = true := by
  simp [trimBack, trimFront_eq_nil_iff]

theorem trimFront_eq_self_iff {cs : List Char} :
    trimFront cs = cs ↔ ∀ c ∈ cs.head?, isBlankChar c = false := by
  cases cs with
  | nil => simp [trimFront]
  | cons c cs =>
    cases h : isBlankChar c with
    | false => simp [trimFront, h]
    | true =>
      simp only [trimFront, List.dropWhile_cons, h, if_true, List.head?_cons, Option.mem_def,
        Option.some.injEq, forall_eq', Bool.true_eq_false, iff_false]
      intro heq
      have := congrArg List.length heq
      have := (List.dropWhile_suffix (l := cs) isBlankChar).length_le
      simp at *
      omega

theorem head?_trimFront_not_blank (cs : List Char) :
    ∀ c ∈ (trimFront cs).head?, isBlankChar c = false := by
  induction cs with
  | nil => simp [trimFront]
  | cons c cs ih =>
    cases h : isBlankChar c with
    | false => simp [trimFront, h]
    | true => simpa [trimFront, h] using ih

theorem trimFront_trimFront (cs : List Char) : trimFront (trimFront cs) = trimFront cs :=
  trimFront_eq_self_iff.2 (head?_trimFront_not_blank cs)

theorem trimBack_trimBack (cs : List Char) : trimBack (trimBack cs) = trimBack cs := by
  simp [trimBack, trimFront_trimFront]

theorem trimFront_trimBack_of_front {cs : List Char} (h : trimFront cs = cs) :
    trimFront (trimBack cs) = trimBack cs := by
  apply trimFront_eq_self_iff.2
  intro c hc
  have hpre : trimBack cs <+: cs := by
    have := List.dropWhile_suffix (l := cs.reverse) isBlankChar
    simpa [trimBack, trimFront] using List.reverse_prefix.2 this
  obtain ⟨rest, hrest⟩ := hpre
  apply trimFront_eq_self_iff.1 h c
  rw [← hrest]
  cases hb : trimBack cs with
  | nil => simp [hb] at hc
  | cons d ds => simpa [hb] using hc

theorem trimChars_trimChars (cs : List Char) : trimChars (trimChars cs) = trimChars cs := by
  simp only [trimChars]
  rw [trimFront_trimBack_of_front (trimFront_trimFront cs), trimBack_trimBack]

theorem trimChars_eq_nil_iff {cs : List Char} :
    trimChars cs = [] ↔ ∀ c ∈ cs, isBlankChar c = true := by
  constructor
  · intro h
    have hfront : trimFront cs = [] := by
      cases hc : trimFront cs with
      | nil => rfl
      | cons c rest =>
        rw [trimChars, trimBack_eq_nil_iff, hc] at h
        have := head?_trimFront_not_blank cs c (by simp [hc])
        simp [h c (by simp)] at this
    exact trimFront_eq_nil_iff.1 hfront
  · intro h
    rw [trimChars, trimFront_eq_nil_iff.2 h]
    rfl

theorem trim_eq_empty_iff {s : String} : trim s = "" ↔ isBlank s = true := by
  rw [← String.toList_inj]
  simp [trim, isBlank, trimChars_eq_nil_iff]

/-! ## Blanks around a text -/

theorem trimFront_append_of_blank {front : List Char} (h : ∀ c ∈ front, isBlankChar c = true)
    (cs : List Char) : trimFront (front ++ cs) = trimFront cs := by
  rw [trimFront, List.dropWhile_append_of_pos h, trimFront]

theorem trimBack_append_of_blank {back : List Char} (h : ∀ c ∈ back, isBlankChar c = true)
    (cs : List Char) : trimBack (cs ++ back) = trimBack cs := by
  rw [trimBack, List.reverse_append, trimFront_append_of_blank, trimBack]
  intro c hc
  exact h c (List.mem_reverse.1 hc)

theorem trimBack_cons (c : Char) (cs : List Char) :
    trimBack (c :: cs) = if trimBack cs = [] then trimBack [c] else c :: trimBack cs := by
  have hnone : trimBack cs = [] ↔ (trimFront cs.reverse).isEmpty = true := by
    rw [trimBack, List.reverse_eq_nil_iff, List.isEmpty_iff]
  have hsplit : trimFront (cs.reverse ++ [c]) =
      if (trimFront cs.reverse).isEmpty then trimFront [c] else trimFront cs.reverse ++ [c] :=
    List.dropWhile_append
  simp only [hnone]
  rw [trimBack, List.reverse_cons, hsplit]
  split
  · rfl
  · simp [trimBack]

theorem trimBack_cons_of_not_blank {c : Char} (h : isBlankChar c = false) (cs : List Char) :
    trimBack (c :: cs) = c :: trimBack cs := by
  rw [trimBack_cons]
  split
  next hnil =>
    rw [hnil]
    simp [trimBack, trimFront, h]
  · rfl

theorem trimBack_append_of_not_blank {word : List Char} (h : ∀ c ∈ word, isBlankChar c = false)
    (cs : List Char) : trimBack (word ++ cs) = word ++ trimBack cs := by
  induction word with
  | nil => rfl
  | cons c word ih =>
    obtain ⟨hc, hword⟩ := List.forall_mem_cons.1 h
    rw [List.cons_append, trimBack_cons_of_not_blank hc, ih hword, List.cons_append]

theorem trimFront_of_word {word : List Char} (hne : word ≠ [])
    (hword : ∀ c ∈ word, isBlankChar c = false) (cs : List Char) :
    trimFront (word ++ cs) = word ++ cs := by
  obtain ⟨c, more, rfl⟩ := List.exists_cons_of_ne_nil hne
  simp [trimFront, hword c List.mem_cons_self]

theorem trimBack_of_word {word : List Char} (hne : word ≠ [])
    (hword : ∀ c ∈ word, isBlankChar c = false) (cs : List Char) :
    trimBack (cs ++ word) = cs ++ word := by
  have hne' : word.reverse ≠ [] := by simpa using hne
  rw [trimBack, List.reverse_append, trimFront_of_word hne' fun c hc => hword c (List.mem_reverse.1 hc)]
  simp

theorem exists_eq_trimBack_append (cs : List Char) :
    ∃ back, (∀ c ∈ back, isBlankChar c = true) ∧ cs = trimBack cs ++ back := by
  refine ⟨(cs.reverse.takeWhile isBlankChar).reverse, fun c hc => ?_, ?_⟩
  · have hall := List.all_takeWhile (l := cs.reverse) (p := isBlankChar)
    exact List.all_eq_true.1 hall c (List.mem_reverse.1 hc)
  · rw [trimBack, trimFront, ← List.reverse_append, List.takeWhile_append_dropWhile,
      List.reverse_reverse]

theorem trimChars_of_word {word : List Char} (hne : word ≠ [])
    (hword : ∀ c ∈ word, isBlankChar c = false) : trimChars word = word := by
  have hfront := trimFront_of_word hne hword []
  rw [List.append_nil] at hfront
  rw [trimChars, hfront]
  exact trimBack_of_word hne hword []

theorem trimFront_trimBack (cs : List Char) : trimFront (trimBack cs) = trimBack (trimFront cs) := by
  induction cs with
  | nil => rfl
  | cons c cs ih =>
    cases h : isBlankChar c with
    | false =>
      have hfront (xs : List Char) : trimFront (c :: xs) = c :: xs := by simp [trimFront, h]
      rw [hfront, trimBack_cons_of_not_blank h, hfront]
    | true =>
      have hfront (xs : List Char) : trimFront (c :: xs) = trimFront xs := by simp [trimFront, h]
      rw [hfront, trimBack_cons, ← ih]
      split
      next hnil =>
        rw [hnil]
        simp [trimBack, trimFront, h]
      · rw [hfront]

theorem trimChars_append_of_blank {back : List Char} (h : ∀ c ∈ back, isBlankChar c = true)
    (cs : List Char) : trimChars (cs ++ back) = trimChars cs := by
  rw [trimChars, ← trimFront_trimBack, trimBack_append_of_blank h, trimFront_trimBack, trimChars]

theorem trimChars_between {front back : String} (hfront : isBlank front = true) (hback : isBlank back = true)
    (s : String) : trimChars (front ++ s ++ back).toList = trimChars s.toList := by
  rw [String.toList_append, trimChars_append_of_blank (List.all_eq_true.1 hback), String.toList_append, trimChars,
    trimFront_append_of_blank (List.all_eq_true.1 hfront), ← trimChars]

theorem length_trimChars_le (cs : List Char) : (trimChars cs).length ≤ cs.length := by
  obtain ⟨back, -, hback⟩ := exists_eq_trimBack_append (trimFront cs)
  have hfront : (trimFront cs).length ≤ cs.length := (List.dropWhile_suffix isBlankChar).length_le
  rw [trimChars]
  rw [hback, List.length_append] at hfront
  omega

end EntityQuery.Text
