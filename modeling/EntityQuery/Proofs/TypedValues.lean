import EntityQuery.CommandLine.Input
import EntityQuery.Proofs.Literals

/-!
# Literals typed as values

A literal that is typed on the command line is not read as a literal: a text loses its quotes but keeps its backslashes.
So null, truth values and integers come back from their literals (`readValue_integer`), and from the literal of a text
comes what stands between its quotes (`readValue_quote`), which is the text itself just if nothing in it is marked.

A text between plain quotes, whatever is in it, comes back whole (`readValue_between_quotes`): nothing that is tried
before the quotes are taken off, be it a keyword or a number, begins with a quote.
-/

namespace EntityQuery

open Text

/-! ## Marks -/

namespace Literal

variable {special : Char → Bool} {cs : List Char}

theorem length_escape (special : Char → Bool) (cs : List Char) :
    (escape special cs).length = cs.length + cs.countP special := by
  induction cs with
  | nil => rfl
  | cons c cs ih =>
    rw [escape_cons, List.length_append, ih, List.countP_cons]
    cases hc : special c with
    | false => simp only [Bool.false_eq_true, if_false, List.length_cons, List.length_nil]; omega
    | true => simp only [if_true, List.length_cons, List.length_nil]; omega

theorem escape_of_plain (h : ∀ c ∈ cs, special c = false) : escape special cs = cs := by
  induction cs with
  | nil => rfl
  | cons c cs ih =>
    obtain ⟨hc, hcs⟩ := List.forall_mem_cons.1 h
    rw [escape_cons, hc, ih hcs]
    rfl

theorem escape_eq_self_iff : escape special cs = cs ↔ ∀ c ∈ cs, special c = false := by
  refine ⟨fun h => ?_, escape_of_plain⟩
  have hlength := length_escape special cs
  rw [h] at hlength
  have hcount : cs.countP special = 0 := by omega
  simpa using List.countP_eq_zero.1 hcount

end Literal

/-! ## Integers -/

theorem IsNumeral.not_blank {cs : List Char} (h : IsNumeral cs) : ∀ c ∈ cs, isBlankChar c = false := by
  intro c hc
  rcases h.2 c hc with hdigit | rfl | rfl
  · exact isBlankChar_of_isDigit hdigit
  · decide
  · decide

namespace Number

theorem isDigits_toDigits (n : Nat) : isDigits (Nat.toDigits 10 n) = true := by
  rw [isDigits, Bool.and_eq_true, List.all_eq_true, Bool.not_eq_true', List.isEmpty_eq_false_iff]
  exact ⟨Nat.toDigits_ne_nil, fun c hc => Nat.isDigit_of_mem_toDigits (by decide) (by decide) hc⟩

theorem splitSign_of_isDigits {cs : List Char} (h : isDigits cs = true) : splitSign cs = (false, cs) := by
  cases cs with
  | nil => cases h
  | cons c cs =>
    rw [isDigits, Bool.and_eq_true, List.all_cons, Bool.and_eq_true] at h
    have hminus : c ≠ '-' := by
      rintro rfl
      exact absurd h.2.1 (by decide)
    have hplus : c ≠ '+' := by
      rintro rfl
      exact absurd h.2.1 (by decide)
    unfold splitSign
    split
    next hc => exact absurd (List.cons.inj hc).1 hminus
    next hc => exact absurd (List.cons.inj hc).1 hplus
    · rfl

theorem readInt?_toString (n : Int) : readInt? (toString n) = some n := by
  have hvalue (n : Nat) : digitsValue (Nat.toDigits 10 n) = n := Nat.ofDigitChars_ten_toDigits
  cases n with
  | ofNat n =>
    have htext : (toString (Int.ofNat n)).toList = Nat.toDigits 10 n := Nat.toList_repr
    rw [readInt?, htext, splitSign_of_isDigits (isDigits_toDigits n)]
    simp [isDigits_toDigits, hvalue]
  | negSucc n =>
    rw [readInt?, toList_toString_negSucc, splitSign]
    simp only [isDigits_toDigits, if_true, hvalue]
    rfl

theorem readInteger?_toString (n : Int64) : readInteger? (toString n.toInt) = some n := by
  rw [readInteger?, readInt?_toString, Option.bind_some, if_pos ⟨n.minValue_le_toInt, n.toInt_le⟩, Int64.ofInt_toInt]

end Number

namespace CommandLine

open Number Literal

variable {s : String}

theorem readTrimmed_of_integer {n : Int64} (h : readInteger? s = some n) : readTrimmed s = .integer n := by
  have hkeyword (keyword : String) (hnone : readInteger? keyword = none) : s ≠ keyword := by
    rintro rfl
    rw [hnone] at h
    cases h
  rw [readTrimmed, if_neg (hkeyword _ rfl), if_neg (not_or.2 ⟨hkeyword _ rfl, hkeyword _ rfl⟩),
    if_neg (not_or.2 ⟨hkeyword _ rfl, hkeyword _ rfl⟩), h]

theorem readValue_integer (n : Int64) : readValue (encode (.integer n)) = .integer n := by
  have hnumeral : IsNumeral (toString n.toInt).toList := isNumeral_int n.toInt
  have htrim : trim (toString n.toInt) = toString n.toInt := by
    rw [trim, trimChars_of_word hnumeral.1 hnumeral.not_blank, String.ofList_toList]
  rw [readValue, encode, htrim, readTrimmed_of_integer (readInteger?_toString n)]

/-! ## Quotes -/

theorem ofList_quote_ne {keyword : String} (h : keyword.toList.head? ≠ some '"') (cs : List Char) :
    String.ofList ('"' :: cs) ≠ keyword := by
  rintro rfl
  exact h (by rw [String.toList_ofList, List.head?_cons])

theorem readInteger?_of_quote (cs : List Char) : readInteger? (String.ofList ('"' :: cs)) = none := by
  rw [readInteger?, readInt?, String.toList_ofList]
  rfl

theorem readFinite?_of_quote (cs : List Char) : readFinite? (String.ofList ('"' :: cs)) = none := by
  have hsign : splitSign ('"' :: cs) = (false, '"' :: cs) := rfl
  have hlower : ('"' :: cs).map Char.toLower = '"' :: cs.map Char.toLower := rfl
  have hnumeral : Numeral.read? false ('"' :: cs) = none := rfl
  rw [readFinite?, readBinary64?, readBinary?, String.toList_ofList, hsign]
  dsimp only
  rw [hlower, if_neg (not_or.2 ⟨ofList_quote_ne (by decide) _, ofList_quote_ne (by decide) _⟩),
    if_neg (ofList_quote_ne (by decide) _), hnumeral]
  rfl

theorem readTrimmed_enclose (cs : List Char) : readTrimmed (enclose cs) = .text (String.ofList cs) := by
  have hquotes : unquote? ('"' :: (cs ++ ['"'])) = some cs := by simp [unquote?]
  rw [enclose, readTrimmed, if_neg (ofList_quote_ne (by decide) _),
    if_neg (not_or.2 ⟨ofList_quote_ne (by decide) _, ofList_quote_ne (by decide) _⟩),
    if_neg (not_or.2 ⟨ofList_quote_ne (by decide) _, ofList_quote_ne (by decide) _⟩), readInteger?_of_quote,
    readFinite?_of_quote, String.toList_ofList, hquotes]

theorem trim_enclose (cs : List Char) : trim (enclose cs) = enclose cs := by
  have hsolid : ∀ c ∈ ['"'], isBlankChar c = false := List.forall_mem_singleton.2 (by decide)
  have hfront : trimFront ('"' :: (cs ++ ['"'])) = '"' :: (cs ++ ['"']) :=
    trimFront_of_word (List.cons_ne_nil _ _) hsolid (cs ++ ['"'])
  have hback : trimBack ('"' :: (cs ++ ['"'])) = '"' :: (cs ++ ['"']) :=
    trimBack_of_word (List.cons_ne_nil _ _) hsolid ('"' :: cs)
  rw [trim, enclose, String.toList_ofList, trimChars, hfront, hback]

/-- **Any text can be typed between quotes as it is**, with white space around them. -/
theorem readValue_between {front back : String} (hfront : isBlank front = true) (hback : isBlank back = true)
    (cs : List Char) : readValue (front ++ enclose cs ++ back) = .text (String.ofList cs) := by
  rw [readValue, trim, trimChars_between hfront hback, ← trim, trim_enclose, readTrimmed_enclose]

theorem readValue_quote (s : String) :
    readValue (quote s) = .text (String.ofList (escape isQuoteSpecial s.toList)) := by
  rw [readValue, quote, trim_enclose, readTrimmed_enclose]

theorem readValue_quote_eq_iff {s : String} : readValue (quote s) = .text s ↔ '"' ∉ s.toList ∧ '\\' ∉ s.toList := by
  have hplain : (∀ c ∈ s.toList, isQuoteSpecial c = false) ↔ '"' ∉ s.toList ∧ '\\' ∉ s.toList := by
    simp only [isQuoteSpecial, Bool.or_eq_false_iff, beq_eq_false_iff_ne]
    exact ⟨fun h => ⟨fun hc => (h _ hc).2 rfl, fun hc => (h _ hc).1 rfl⟩,
      fun h c hc => ⟨ne_of_mem_of_not_mem hc h.2, ne_of_mem_of_not_mem hc h.1⟩⟩
  rw [readValue_quote, Value.text.injEq, ← hplain, ← escape_eq_self_iff, ← String.toList_inj, String.toList_ofList]

/-! ## The main statement -/

/-- **Which literals come back when they are typed**: null, truth values, integers, and the texts without quotes and
backslashes. From the literal of any other text comes the text with its marks. But every text comes back from between
quotes that are put around it without any marks, with white space around the quotes or not. -/
theorem literals_typed_as_values :
    readValue (encode .null) = .null ∧ (∀ b, readValue (encode (.boolean b)) = .boolean b) ∧
    (∀ n, readValue (encode (.integer n)) = .integer n) ∧
    (∀ s, (readValue (encode (.text s)) = .text s ↔ '"' ∉ s.toList ∧ '\\' ∉ s.toList) ∧
      readValue (encode (.text s)) = .text (String.ofList (escape isQuoteSpecial s.toList))) ∧
    ∀ s front back, isBlank front = true → isBlank back = true →
      readValue (front ++ ("\"" ++ s ++ "\"") ++ back) = .text s := by
  refine ⟨by decide, fun b => ?_, readValue_integer, fun s => ⟨readValue_quote_eq_iff, readValue_quote s⟩, ?_⟩
  · cases b <;> decide
  · intro s front back hfront hback
    have hquoted : "\"" ++ s ++ "\"" = enclose s.toList := by
      rw [← String.toList_inj]
      simp [enclose]
    rw [hquoted, readValue_between hfront hback, String.ofList_toList]

/-- A text with a quote and a backslash, typed between quotes and blanks. -/
theorem unmarked_text_typed : readValue "\t\"say \"no\\\" \n" = .text "say \"no\\" :=
  literals_typed_as_values.2.2.2.2 "say \"no\\" "\t" " \n" (by decide) (by decide)

/-- Texts that would be read as something else without their quotes. -/
example : ∀ s ∈ ["none", "True", "42", "1e5", " a "], readValue (encode (.text s)) = .text s := by decide

end CommandLine

end EntityQuery
