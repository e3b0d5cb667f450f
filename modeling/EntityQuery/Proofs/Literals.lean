import EntityQuery.Proofs.Patterns
import EntityQuery.Proofs.Words

/-!
# The text of a value

Every value is written as a literal of the grammar (`isLiteral_encode`): one of three words, a numeral, or
a text between quotes. Seen from outside, a literal is balanced and one word (`IsLiteral.balanced`,
`IsLiteral.words_eq`), and it begins with a quote, a digit, a sign, a point or one of three letters
(`IsLiteral.head`), so it is never a keyword of a statement.
-/

namespace EntityQuery

open RawText Number

/-- One digit or more, with signs and points. -/
def IsNumeral (cs : List Char) : Prop := cs ≠ [] ∧ ∀ c ∈ cs, c.isDigit = true ∨ c = '-' ∨ c = '.'

inductive IsLiteral : List Char → Prop
  | missing : IsLiteral Literal.missing.toList
  | yes : IsLiteral "True".toList
  | no : IsLiteral "False".toList
  | number {cs : List Char} : IsNumeral cs → IsLiteral cs
  | text {cs content : List Char} : Literal.readLiteral cs = some (content, []) → IsLiteral cs

/-! ## Numbers -/

theorem isNumeral_toDigits (n : Nat) : IsNumeral (Nat.toDigits 10 n) :=
  ⟨Nat.toDigits_ne_nil, fun _ hc => .inl (Nat.isDigit_of_mem_toDigits (by decide) (by decide) hc)⟩

theorem isNumeral_toString (n : Nat) : IsNumeral (toString n).toList := by
  have hdigits : (toString n).toList = Nat.toDigits 10 n := Nat.toList_repr
  rw [hdigits]
  exact isNumeral_toDigits n

theorem IsNumeral.negative {cs : List Char} (h : IsNumeral cs) : IsNumeral ('-' :: cs) := by
  refine ⟨by simp, fun c hc => ?_⟩
  rcases List.mem_cons.1 hc with rfl | hc
  · exact .inr (.inl rfl)
  · exact h.2 c hc

theorem toList_toString_negSucc (n : Nat) : (toString (Int.negSucc n)).toList = '-' :: Nat.toDigits 10 (n + 1) := by
  rw [← Nat.toList_repr]
  change ("-" ++ Nat.repr (n + 1)).toList = _
  rw [String.toList_append]
  rfl

theorem isNumeral_int (n : Int) : IsNumeral (toString n).toList := by
  cases n with
  | ofNat n => exact isNumeral_toString n
  | negSucc n =>
    rw [toList_toString_negSucc]
    exact (isNumeral_toDigits (n + 1)).negative

section decimals

variable (d : Decimal)

theorem isDigit_of_mem_paddedDigits {c : Char} (h : c ∈ d.paddedDigits) : c.isDigit = true := by
  rw [Decimal.paddedDigits, List.mem_append] at h
  rcases h with h | h
  · rw [List.eq_of_mem_replicate h]
    rfl
  · exact Nat.isDigit_of_mem_toDigits (by decide) (by decide) h

theorem paddedDigits_ne_nil : d.paddedDigits ≠ [] := by
  rw [Decimal.paddedDigits]
  intro h
  exact Nat.toDigits_ne_nil (List.append_eq_nil_iff.1 h).2

theorem isNumeral_decimal : IsNumeral d.toText.toList := by
  have hdigit : ∀ c ∈ d.paddedDigits, c.isDigit = true ∨ c = '-' ∨ c = '.' :=
    fun c hc => .inl (isDigit_of_mem_paddedDigits d hc)
  rw [Decimal.toText, String.toList_ofList]
  constructor
  · intro h
    obtain ⟨hfront, hpoint⟩ := List.append_eq_nil_iff.1 h
    have htake := (List.append_eq_nil_iff.1 hfront).2
    split at hpoint
    next hscale =>
      rw [hscale, Nat.sub_zero, List.take_length] at htake
      exact paddedDigits_ne_nil d htake
    · cases hpoint
  · intro c hc
    rw [List.mem_append, List.mem_append] at hc
    rcases hc with (hc | hc) | hc
    · split at hc
      · exact .inr (.inl (List.mem_singleton.1 hc))
      · cases hc
    · exact hdigit c (List.mem_of_mem_take hc)
    · split at hc
      · cases hc
      · rcases List.mem_cons.1 hc with rfl | hc
        · exact .inr (.inr rfl)
        · exact hdigit c (List.mem_of_mem_drop hc)

end decimals

section floats

theorem isDigit_of_mem_candidate {k : Shortest.Candidate} {c : Char} (h : c ∈ k.toDigits.digits) :
    c.isDigit = true := by
  have hmem : c ∈ Nat.toDigits 10 k.coefficient := by
    rw [Shortest.Candidate.toDigits, List.mem_reverse] at h
    exact List.mem_reverse.1 ((List.dropWhile_suffix _).subset h)
  exact Nat.isDigit_of_mem_toDigits (by decide) (by decide) hmem

theorem isDigit_of_mem_shortest (tie : Tie) (m : Magnitude) :
    ∀ c ∈ (Shortest.digits tie m).digits, c.isDigit = true := by
  intro c hc
  rw [Shortest.digits] at hc
  split at hc
  · rw [List.mem_singleton.1 hc]
    rfl
  · dsimp only at hc
    split at hc
    · exact isDigit_of_mem_candidate hc
    · exact isDigit_of_mem_candidate hc

theorem isNumeral_plainDigits {digits : Digits} (h : ∀ c ∈ digits.digits, c.isDigit = true) :
    IsNumeral (Layout.fractional.plainDigits digits) := by
  have hzero : ∀ (n : Nat), ∀ c ∈ List.replicate n '0', c.isDigit = true ∨ c = '-' ∨ c = '.' := by
    intro n c hc
    rw [List.eq_of_mem_replicate hc]
    exact .inl rfl
  rw [Layout.plainDigits]
  split
  · refine ⟨by simp, fun c hc => ?_⟩
    rcases List.mem_cons.1 hc with rfl | hc
    · exact .inl rfl
    rcases List.mem_cons.1 hc with rfl | hc
    · exact .inr (.inr rfl)
    rcases List.mem_append.1 hc with hc | hc
    · exact hzero _ c hc
    · exact .inl (h c hc)
  · constructor
    · intro hnil
      have hend := (List.append_eq_nil_iff.1 hnil).2
      split at hend
      · cases hend
      · cases hend
    · intro c hc
      rw [List.mem_append, List.mem_append] at hc
      rcases hc with (hc | hc) | hc
      · exact .inl (h c (List.mem_of_mem_take hc))
      · exact hzero _ c hc
      · split at hc
        · rcases List.mem_cons.1 hc with rfl | hc
          · exact .inr (.inr rfl)
          · rw [List.mem_singleton.1 hc]
            exact .inl rfl
        · rcases List.mem_cons.1 hc with rfl | hc
          · exact .inr (.inr rfl)
          · exact .inl (h c (List.mem_of_mem_drop hc))

theorem ofFloat_cases (x : Binary64) :
    Literal.ofFloat x = Literal.missing ∨ IsNumeral (Literal.ofFloat x).toList := by
  cases x with
  | nan => exact .inl rfl
  | infinite => exact .inl rfl
  | finite negative m =>
    have hplain : IsNumeral (Layout.fractional.magnitudeChars m) :=
      isNumeral_plainDigits (isDigit_of_mem_shortest _ m)
    right
    change IsNumeral (Layout.fractional.write (.finite negative m)).toList
    rw [Layout.write, String.toList_ofList]
    cases negative with
    | false => exact hplain
    | true => exact hplain.negative

theorem isLiteral_ofFloat (x : Binary64) : IsLiteral (Literal.ofFloat x).toList := by
  rcases ofFloat_cases x with hmissing | hnum
  · rw [hmissing]
    exact .missing
  · exact .number hnum

end floats

/-! ## Values -/

theorem isLiteral_quote (s : String) : IsLiteral (Literal.quote s).toList := by
  have hread := Literal.readLiteral_quote s []
  rw [List.append_nil] at hread
  exact .text hread

/-- **Every value is written as a literal.** -/
theorem isLiteral_encode (v : Value) : IsLiteral (Literal.encode v).toList := by
  cases v with
  | null => exact .missing
  | boolean b =>
    cases b with
    | true => exact .yes
    | false => exact .no
  | integer n => exact .number (isNumeral_int n.toInt)
  | float x => exact isLiteral_ofFloat x
  | decimal d => exact .number (isNumeral_decimal d)
  | text s => exact isLiteral_quote s
  | entity e => exact isLiteral_quote e.id.toText

theorem isLiteral_encodePattern {v : Value} (h : ∀ s, v = .text s → Literal.EvenRuns s.toList) :
    IsLiteral (Literal.encodePattern v).toList := by
  cases v with
  | text s =>
    obtain ⟨content, hread⟩ := Literal.readLiteral_quotePattern (h s rfl)
    exact .text hread
  | null => exact isLiteral_encode .null
  | boolean b => exact isLiteral_encode (.boolean b)
  | integer n => exact isLiteral_encode (.integer n)
  | float x => exact isLiteral_encode (.float x)
  | decimal d => exact isLiteral_encode (.decimal d)
  | entity e => exact isLiteral_encode (.entity e)

/-! ## Literals from outside -/

namespace IsLiteral

variable {cs : List Char}

theorem numeral_plain (h : IsNumeral cs) : ∀ c ∈ cs, c ≠ ' ' ∧ c ≠ '"' ∧ c ≠ '(' ∧ c ≠ ')' ∧ c ≠ ',' := by
  intro c hc
  rcases h.2 c hc with hdigit | rfl | rfl
  · refine ⟨?_, ?_, ?_, ?_, ?_⟩ <;>
    · rintro rfl
      exact absurd hdigit (by decide)
  · decide
  · decide

theorem balanced (h : IsLiteral cs) : Balanced cs := by
  cases h with
  | missing => exact balanced_of_all (by decide)
  | yes => exact balanced_of_all (by decide)
  | no => exact balanced_of_all (by decide)
  | number hnum =>
    refine balanced_of_plain fun c hc => ?_
    obtain ⟨-, hquote, hopen, hclose, -⟩ := numeral_plain hnum c hc
    exact ⟨hquote, hopen, hclose⟩
  | text hread => exact balanced_of_readLiteral hread

theorem words_eq (h : IsLiteral cs) : words cs = [cs] := by
  cases h with
  | missing => exact words_of_no_blank (by decide)
  | yes => exact words_of_no_blank (by decide)
  | no => exact words_of_no_blank (by decide)
  | number hnum => exact words_of_no_blank fun hblank => (numeral_plain hnum _ hblank).1 rfl
  | text hread => exact words_of_readLiteral hread

theorem head (h : IsLiteral cs) :
    ∃ c, cs.head? = some c ∧ (c.isDigit = true ∨ c ∈ ['"', '-', '.', 'n', 'T', 'F']) := by
  cases h with
  | missing => exact ⟨'n', rfl, .inr (by decide)⟩
  | yes => exact ⟨'T', rfl, .inr (by decide)⟩
  | no => exact ⟨'F', rfl, .inr (by decide)⟩
  | number hnum =>
    obtain ⟨c, cs, rfl⟩ := List.exists_cons_of_ne_nil hnum.1
    refine ⟨c, rfl, ?_⟩
    rcases hnum.2 c (by simp) with hdigit | rfl | rfl
    · exact .inl hdigit
    · exact .inr (by decide)
    · exact .inr (by decide)
  | text hread =>
    obtain ⟨body, rfl, -⟩ := readLiteral_run hread
    exact ⟨'"', rfl, .inr (by decide)⟩

theorem getLast_ne_comma (h : IsLiteral cs) : cs.getLast? ≠ some ',' := by
  cases h with
  | missing => decide
  | yes => decide
  | no => decide
  | number hnum => exact fun hlast => (numeral_plain hnum _ (List.mem_of_getLast? hlast)).2.2.2.2 rfl
  | text hread =>
    obtain ⟨body, rfl, -⟩ := readLiteral_run hread
    rw [← List.cons_append, List.getLast?_concat]
    decide

theorem ne_nil (h : IsLiteral cs) : cs ≠ [] := by
  rintro rfl
  obtain ⟨c, hc, -⟩ := h.head
  cases hc

theorem exists_readLiteral (h : IsLiteral ('"' :: cs)) :
    ∃ content, Literal.readLiteral ('"' :: cs) = some (content, []) := by
  generalize htext : '"' :: cs = text at h
  cases h with
  | missing => exact absurd (List.cons.inj htext).1 (by decide)
  | yes => exact absurd (List.cons.inj htext).1 (by decide)
  | no => exact absurd (List.cons.inj htext).1 (by decide)
  | number hnum => exact absurd rfl (numeral_plain hnum '"' (htext ▸ List.mem_cons_self)).2.1
  | text hread => exact ⟨_, hread⟩

end IsLiteral

/-- **A right-hand side of a `like` is a literal just if a pattern's runs of backslashes are even.** -/
theorem isLiteral_encodePattern_iff {v : Value} :
    IsLiteral (Literal.encodePattern v).toList ↔ ∀ s, v = .text s → Literal.EvenRuns s.toList := by
  refine ⟨?_, isLiteral_encodePattern⟩
  rintro h s rfl
  rw [Literal.encodePattern, Literal.toList_quotePattern] at h
  have hread := h.exists_readLiteral
  rw [← Literal.toList_quotePattern] at hread
  exact Literal.exists_readLiteral_quotePattern_iff.1 hread

end EntityQuery
