import EntityQuery.Number.Numeral

/-!
# Exact decimals

A decimal keeps the digits it was written with: `1.50` stays `1.50`. It also keeps its sign, that of a
zero included: `-0` is what a change of sign makes of `0`, though no text is read as `-0`. Equality `==`
compares as numbers, so `1.5` and `1.50` are equal and have different texts, as have `0` and `-0`.
-/

namespace EntityQuery.Number

/-- `coefficient / 10 ^ scale` with a sign, at most 96 bits and at most 28 digits after the point. -/
structure Decimal where
  negative : Bool := false
  coefficient : Nat
  scale : Nat
  coefficient_lt : coefficient < 1 <<< 96 := by decide
  scale_le : scale ≤ 28 := by decide
  deriving DecidableEq

namespace Decimal

def signed (d : Decimal) : Int := if d.negative then -d.coefficient else d.coefficient

def equal (a b : Decimal) : Bool :=
  a.signed * Nat.pow 10 b.scale == b.signed * Nat.pow 10 a.scale

instance : BEq Decimal := ⟨equal⟩

/-- Reads an optional sign, digits and an optional point among or around them. A zero that is read has no
sign. -/
def read? (s : String) : Option Decimal :=
  let (negative, cs) := splitSign s.toList
  let whole := leadingDigits cs
  let (fraction, rest) := Numeral.splitFraction (afterDigits cs)
  let coefficient := digitsValue (whole ++ fraction)
  if h : coefficient < 1 <<< 96 ∧ fraction.length ≤ 28 then
    if rest.isEmpty && !(whole.isEmpty && fraction.isEmpty) then
      some ⟨negative && coefficient != 0, coefficient, fraction.length, h.1, h.2⟩
    else none
  else none

/-- The digits of the coefficient, at least one of them before the point. -/
def paddedDigits (d : Decimal) : List Char :=
  let digits := Nat.toDigits 10 d.coefficient
  List.replicate (d.scale + 1 - digits.length) '0' ++ digits

/-- As many digits after the point as the scale says; no point if there are none. -/
def toText (d : Decimal) : String :=
  let digits := d.paddedDigits
  let whole := digits.length - d.scale
  String.ofList <| (if d.negative then ['-'] else []) ++ digits.take whole ++
    if d.scale = 0 then [] else '.' :: digits.drop whole

instance : ToString Decimal := ⟨toText⟩

end Decimal

end EntityQuery.Number
