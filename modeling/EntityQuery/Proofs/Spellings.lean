import EntityQuery.Proofs.Backtracking
import EntityQuery.Proofs.Literals
import EntityQuery.Proofs.Rendering

/-!
# Equal numbers and their spellings

`==` compares numbers as numbers, and a number can be written in more than one way: a zero has a sign, be it a float or a
decimal, and a decimal keeps the digits that it was given with (`Value.SpelledApart`). All other values that are equal are
identical.

Texts that go on differently can still be the same, so it is not enough that two spellings differ. `Told` says of two
texts that they can be the same, whatever follows them, only under a condition. A numeral ends where no character of
numerals follows, and what follows a literal in a text never goes on with it (`EndsNumeral`), so a literal tells which of
the equal values it stands for (`told_encode`), and lists of literals do (`Told.intercalate`).
-/

namespace EntityQuery

open Number EntityQuery.Expr

/-! ## Equal numbers that are written otherwise -/

namespace Number.Decimal

variable {a b : Decimal}

theorem signed_mul (d : Decimal) (k : Nat) :
    d.signed * k = if d.negative then -((d.coefficient * k : Nat) : Int) else (d.coefficient * k : Nat) := by
  rw [signed]
  split
  · rw [Int.neg_mul, Int.natCast_mul]
  · rw [Int.natCast_mul]

/-- Brought to the same scale, equal decimals have the same coefficient, and it is zero if the signs differ. -/
theorem products_of_beq (h : (a == b) = true) :
    a.coefficient * 10 ^ b.scale = b.coefficient * 10 ^ a.scale ∧
      (a.negative ≠ b.negative → a.coefficient * 10 ^ b.scale = 0) := by
  have hsigned : a.signed * (10 ^ b.scale : Nat) = b.signed * (10 ^ a.scale : Nat) := LawfulBEq.eq_of_beq h
  rw [signed_mul, signed_mul] at hsigned
  generalize a.coefficient * 10 ^ b.scale = m at *
  generalize b.coefficient * 10 ^ a.scale = n at *
  -- with opposite signs one side is at most zero and the other at least
  cases hs : a.negative <;> cases ht : b.negative <;> simp [hs, ht] at hsigned ⊢ <;> omega

theorem eq_of_beq_of_layout (h : (a == b) = true) (hscale : a.scale = b.scale) (hsign : a.negative = b.negative) :
    a = b := by
  have hproducts := (products_of_beq h).1
  obtain ⟨s, m, i, _, _⟩ := a
  obtain ⟨t, n, j, _, _⟩ := b
  dsimp only at *
  subst hscale hsign
  congr 1
  exact Nat.eq_of_mul_eq_mul_right (Nat.pow_pos (by decide)) hproducts

theorem coefficients_eq_zero (h : (a == b) = true) (hsign : a.negative ≠ b.negative) :
    a.coefficient = 0 ∧ b.coefficient = 0 := by
  obtain ⟨hproducts, hzero⟩ := products_of_beq h
  have ha := hzero hsign
  have hb := hproducts.symm.trans ha
  have hpow (k : Nat) : 10 ^ k ≠ 0 := by simp
  exact ⟨(Nat.mul_eq_zero.1 ha).resolve_right (hpow _), (Nat.mul_eq_zero.1 hb).resolve_right (hpow _)⟩

theorem scale_lt_length (a : Decimal) : a.scale < a.paddedDigits.length := by
  rw [paddedDigits, List.length_append, List.length_replicate]
  omega

theorem scale_of_toText (a : Decimal) : (a.toText.toList.dropWhile (· ≠ '.')).length - 1 = a.scale := by
  have hdigits : ∀ c ∈ a.paddedDigits, c ≠ '.' := by
    rintro c hc rfl
    exact absurd (isDigit_of_mem_paddedDigits a hc) (by decide)
  have hscale := a.scale_lt_length
  rw [toText, String.toList_ofList, Text.dropWhile_run]
  · split
    next hnone => rw [hnone, List.length_nil]
    · rw [List.length_cons, List.length_drop]
      omega
  · intro c hc
    rw [decide_eq_true_iff]
    rcases List.mem_append.1 hc with hsign | hc
    · rintro rfl
      split at hsign <;> simp at hsign
    · exact hdigits c (List.mem_of_mem_take hc)
  · intro c hc
    split at hc
    · cases hc
    · cases hc
      rfl

theorem head?_toText (a : Decimal) : a.toText.toList.head? = some '-' ↔ a.negative = true := by
  rw [toText, String.toList_ofList]
  cases a.negative with
  | true => simp
  | false =>
    have hwhole : a.paddedDigits.take (a.paddedDigits.length - a.scale) ≠ [] := by
      have := a.scale_lt_length
      rw [← List.length_pos_iff, List.length_take]
      omega
    obtain ⟨c, cs, htake⟩ := List.exists_cons_of_ne_nil hwhole
    have hc : c.isDigit = true := isDigit_of_mem_paddedDigits a (List.mem_of_mem_take (htake ▸ List.mem_cons_self))
    have hne : c ≠ '-' := by
      rintro rfl
      exact absurd hc (by decide)
    simp [htake, hne]

end Number.Decimal

/-- Equal numbers that are written otherwise: zeros of opposite signs, as floats or as decimals, and decimals with
different numbers of digits after the point. -/
inductive Value.SpelledApart : Value → Value → Prop
  | zeros (negative : Bool) :
      SpelledApart (.float (.finite negative .zero)) (.float (.finite (!negative) .zero))
  | decimalZeros {a b : Decimal} : a.coefficient = 0 → b.coefficient = 0 → a.negative ≠ b.negative →
      SpelledApart (.decimal a) (.decimal b)
  | decimals {a b : Decimal} : (a == b) = true → a.scale ≠ b.scale → SpelledApart (.decimal a) (.decimal b)

namespace Value

variable {v w : Value}

theorem float_eq_or_spelledApart {x y : Binary64} (h : (x == y) = true) :
    x = y ∨ SpelledApart (.float x) (.float y) := by
  by_cases hzero : ∃ s m, x = .finite s m ∧ m.isZero = true
  · obtain ⟨s, ⟨rank, hrank⟩, rfl, hm⟩ := hzero
    obtain rfl : rank = 0 := LawfulBEq.eq_of_beq hm
    cases y with
    | finite t n =>
      obtain ⟨hmagnitude, -⟩ : (_ == n) = true ∧ _ := Bool.and_eq_true_iff.1 h
      obtain rfl := LawfulBEq.eq_of_beq hmagnitude
      by_cases hsign : s = t
      · subst hsign
        exact .inl rfl
      · obtain rfl : t = !s := by
          revert hsign
          cases s <;> cases t <;> decide
        exact .inr (.zeros s)
    | _ => cases h
  · push Not at hzero
    have hx : ∀ s m, x = .finite s m → m.isZero = false := fun s m hxm => by simpa using hzero s m hxm
    exact .inl (Binary64.eq_of_beq_of_ne_zero h hx)

theorem decimal_eq_or_spelledApart {a b : Decimal} (h : (a == b) = true) :
    a = b ∨ SpelledApart (.decimal a) (.decimal b) := by
  by_cases hscale : a.scale = b.scale
  · by_cases hsign : a.negative = b.negative
    · exact .inl (Decimal.eq_of_beq_of_layout h hscale hsign)
    · obtain ⟨ha, hb⟩ := Decimal.coefficients_eq_zero h hsign
      exact .inr (.decimalZeros ha hb hsign)
  · exact .inr (.decimals h hscale)

theorem eq_or_spelledApart_of_beq (h : (v == w) = true) : v = w ∨ SpelledApart v w := by
  cases v with
  | float x =>
    cases w with
    | float y => exact (float_eq_or_spelledApart h).imp_left (congrArg float)
    | _ => cases h
  | decimal a =>
    cases w with
    | decimal b => exact (decimal_eq_or_spelledApart h).imp_left (congrArg decimal)
    | _ => cases h
  -- the equality of any other kind of value is lawful
  | null =>
    cases w with
    | null => exact .inl rfl
    | _ => cases h
  | boolean a =>
    cases w with
    | boolean b => exact .inl (congrArg boolean (LawfulBEq.eq_of_beq h))
    | _ => cases h
  | integer a =>
    cases w with
    | integer b => exact .inl (congrArg integer (LawfulBEq.eq_of_beq h))
    | _ => cases h
  | text a =>
    cases w with
    | text b => exact .inl (congrArg text (LawfulBEq.eq_of_beq h))
    | _ => cases h
  | entity a =>
    cases w with
    | entity b => exact .inl (congrArg entity (LawfulBEq.eq_of_beq h))
    | _ => cases h

namespace SpelledApart

theorem beq (h : SpelledApart v w) : (v == w) = true := by
  cases h with
  | zeros negative => cases negative <;> decide
  | @decimalZeros a b ha hb =>
    have hzero : ∀ d : Decimal, d.coefficient = 0 → d.signed = 0 := fun d hd => by simp [Decimal.signed, hd]
    change Decimal.equal a b = true
    rw [Decimal.equal, hzero a ha, hzero b hb, Int.zero_mul, Int.zero_mul]
    rfl
  | decimals h _ => exact h

theorem encode_ne (h : SpelledApart v w) : Literal.encode v ≠ Literal.encode w := by
  cases h with
  | zeros negative => cases negative <;> decide
  | @decimalZeros a b _ _ hsign =>
    intro htext
    have htext : a.toText = b.toText := htext
    refine hsign (Bool.eq_iff_iff.2 ?_)
    rw [← a.head?_toText, ← b.head?_toText, htext]
  | @decimals a b _ hscale =>
    intro htext
    have htext : a.toText = b.toText := htext
    rw [← a.scale_of_toText, ← b.scale_of_toText, htext] at hscale
    exact hscale rfl

theorem isNumeral (h : SpelledApart v w) :
    IsNumeral (Literal.encode v).toList ∧ IsNumeral (Literal.encode w).toList := by
  cases h with
  | zeros negative =>
    have hzero : ∀ negative, IsNumeral (Literal.encode (.float (.finite negative .zero))).toList := by
      intro negative
      refine (ofFloat_cases (.finite negative .zero)).resolve_left ?_
      cases negative <;> decide
    exact ⟨hzero _, hzero _⟩
  | @decimalZeros a b => exact ⟨isNumeral_decimal a, isNumeral_decimal b⟩
  | @decimals a b => exact ⟨isNumeral_decimal a, isNumeral_decimal b⟩

end SpelledApart

end Value

/-! ## Texts that tell what they were made from -/

def isNumeralChar (c : Char) : Bool := c.isDigit || c == '-' || c == '.'

def EndsNumeral (rest : List Char) : Prop := ∀ c ∈ rest.head?, isNumeralChar c = false

/-- Whatever follows the two texts, they are the same only if the proposition holds, and then the rest is the same too. -/
def Told (P : Prop) (cs ds : List Char) : Prop :=
  ∀ rest rest', EndsNumeral rest → EndsNumeral rest' → cs ++ rest = ds ++ rest' → P ∧ rest = rest'

variable {P Q : Prop} {cs ds sep : List Char}

theorem told_numerals (hcs : IsNumeral cs) (hds : IsNumeral ds) : Told (cs = ds) cs ds := by
  have hchars {cs : List Char} (h : IsNumeral cs) : ∀ c ∈ cs, isNumeralChar c = true := by
    intro c hc
    simpa [isNumeralChar, or_assoc] using h.2 c hc
  intro rest rest' hrest hrest' htext
  have hsame : cs = ds := by
    rw [← Text.takeWhile_run (hchars hcs) hrest, htext, Text.takeWhile_run (hchars hds) hrest']
  subst hsame
  exact ⟨rfl, List.append_cancel_left htext⟩

namespace Told

theorem of_holds (hP : P) (cs : List Char) : Told P cs cs := fun _ _ _ _ htext => ⟨hP, List.append_cancel_left htext⟩

theorem imp (h : Told P cs ds) (hPQ : P → Q) : Told Q cs ds := fun rest rest' hrest hrest' htext =>
  (h rest rest' hrest hrest' htext).imp_left hPQ

theorem holds (h : Told P cs ds) (htext : cs = ds) : P :=
  (h [] [] nofun nofun (by rw [htext])).1

theorem prepend (before : List Char) (h : Told P cs ds) : Told P (before ++ cs) (before ++ ds) := by
  intro rest rest' hrest hrest' htext
  rw [List.append_assoc, List.append_assoc] at htext
  exact h rest rest' hrest hrest' (List.append_cancel_left htext)

theorem append {x : Char} (h : Told P cs ds) (hx : isNumeralChar x = false) (after : List Char) :
    Told P (cs ++ x :: after) (ds ++ x :: after) := by
  have hends (rest : List Char) : EndsNumeral (x :: after ++ rest) := by
    rintro c ⟨⟩
    exact hx
  intro rest rest' hrest hrest' htext
  rw [List.append_assoc, List.append_assoc] at htext
  obtain ⟨hP, hafter⟩ := h _ _ (hends rest) (hends rest') htext
  exact ⟨hP, List.append_cancel_left hafter⟩

theorem brackets (h : Told P cs ds) : Told P ('(' :: (cs ++ [')'])) ('(' :: (ds ++ [')'])) :=
  (h.append (by decide) []).prepend ['(']

theorem written (name op : List Char) (h : Told P cs ds) :
    Told P (name ++ ' ' :: (op ++ ' ' :: cs)) (name ++ ' ' :: (op ++ ' ' :: ds)) :=
  (((h.prepend [' ']).prepend op).prepend [' ']).prepend name

/-- A joined list tells its members if each of them is told and the separator goes on with no numeral. -/
theorem intercalate {α : Type} {f : α → List Char} {xs ys : List α} (x : Char) (sep : List Char)
    (hx : isNumeralChar x = false) (h : List.Forall₂ (fun x y => Told (x = y) (f x) (f y)) xs ys) :
    Told (xs = ys) ((x :: sep).intercalate (xs.map f)) ((x :: sep).intercalate (ys.map f)) := by
  induction h with
  | nil => exact .of_holds rfl []
  | @cons a b as bs hab hrest ih =>
    cases hrest with
    | nil => simpa using hab
    | @cons a' b' as bs hab' hrest =>
      have hends (rest : List Char) : EndsNumeral (x :: sep ++ rest) := by
        rintro c ⟨⟩
        exact hx
      intro rest rest' hends₁ hends₂ htext
      simp only [List.map_cons, List.intercalate_cons_cons, List.append_assoc] at htext ih
      obtain ⟨rfl, hafter⟩ := hab _ _ (hends _) (hends _) htext
      obtain ⟨hlists, hrest⟩ := ih _ _ hends₁ hends₂ (List.append_cancel_left hafter)
      exact ⟨congrArg (a :: ·) hlists, hrest⟩

end Told

/-- A literal tells the value among those that are equal to it. -/
theorem told_encode {v w : Value} (h : (v == w) = true) :
    Told (v = w) (Literal.encode v).toList (Literal.encode w).toList := by
  obtain rfl | hapart := Value.eq_or_spelledApart_of_beq h
  · exact .of_holds rfl _
  · obtain ⟨hv, hw⟩ := hapart.isNumeral
    refine (told_numerals hv hw).imp fun htext => ?_
    exact absurd (String.toList_inj.1 htext) hapart.encode_ne

theorem told_operand (op : Comparison) {v w : Value} (h : (v == w) = true) :
    Told (v = w) (operand op v).toList (operand op w).toList := by
  rw [operand, operand]
  split
  · obtain rfl | hapart := Value.eq_or_spelledApart_of_beq h
    · exact .of_holds rfl _
    · cases hapart with
      | zeros | decimalZeros | decimals => exact told_encode h
  · exact told_encode h

theorem told_valuesText {vs ws : List Value} (h : List.Forall₂ (fun v w => (v == w) = true) vs ws) :
    Told (vs = ws) (valuesText vs).toList (valuesText ws).toList := by
  have hlists := Told.intercalate ',' [' '] (by decide) (h.imp fun _ _ => told_encode)
  cases h with
  | nil => exact .of_holds rfl _
  | @cons v w vs ws =>
    rw [valuesText, valuesText, if_neg (by simp), if_neg (by simp), String.toList_intercalate,
      String.toList_intercalate, List.map_map, List.map_map]
    exact hlists

end EntityQuery
