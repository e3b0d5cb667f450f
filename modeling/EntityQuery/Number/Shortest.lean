import EntityQuery.Number.Binary64

/-!
# Shortest decimal digits

The text of a floating-point number holds the fewest digits that read back as the same number,
and of the numbers with so few digits the nearest one. `Shortest.digits` finds them by trying one
digit, two digits, and so on; where the written number has the digits `d₁ d₂ … dₙ` and the
exponent `e`, its value is `d₁.d₂…dₙ × 10 ^ e`. `Layout` says how digits and exponent become a text.
-/

namespace EntityQuery.Number

/-- Which of two decimal neighbours stands for a number exactly between them. -/
inductive Tie where
  | up
  | toEven
  deriving DecidableEq

/-- Significant digits without trailing zeros, and the decimal exponent of the first of them. -/
structure Digits where
  digits : List Char
  exponent : Int
  deriving DecidableEq

namespace Shortest

/-- A whole number of decimal steps: `coefficient * 10 ^ exponent`. -/
structure Candidate where
  coefficient : Nat
  exponent : Int

def digitCount (n : Nat) : Nat := (Nat.toDigits 10 n).length

/-- The exponent of the first decimal digit of a positive fraction. -/
def floorLog10 (num den : Nat) : Int :=
  if den ≤ num then (digitCount (num / den) : Int) - 1
  else -(digitCount ((den + num - 1) / num - 1) : Int)

def Candidate.readsBack (c : Candidate) (rank : Nat) : Bool :=
  BinaryFormat.double.rankOfRatio (c.coefficient * Nat.pow 10 c.exponent.toNat)
    (Nat.pow 10 (-c.exponent).toNat) == rank

/-- The neighbours of `num / den` on the grid of multiples of `10 ^ exponent` that read back; the
nearer one if both do. -/
def onGrid (tie : Tie) (rank num den : Nat) (exponent : Int) : Option Candidate :=
  let scaledNum := num * Nat.pow 10 (-exponent).toNat
  let scaledDen := den * Nat.pow 10 exponent.toNat
  let quotient := scaledNum / scaledDen
  let below : Candidate := ⟨quotient, exponent⟩
  let above : Candidate := ⟨quotient + 1, exponent⟩
  let doubled := 2 * (scaledNum % scaledDen)
  let goesUp := scaledDen < doubled ||
    (doubled == scaledDen && (tie == .up || quotient % 2 == 1))
  match below.readsBack rank, above.readsBack rank with
  | true, true => some (if goesUp then above else below)
  | true, false => some below
  | false, true => some above
  | false, false => none

/-- The candidate's digits, trailing zeros moved into the exponent. -/
def Candidate.toDigits (c : Candidate) : Digits :=
  let all := Nat.toDigits 10 c.coefficient
  ⟨(all.reverse.dropWhile (· == '0')).reverse, c.exponent + all.length - 1⟩

/-- The fewest digits that read back as this magnitude. Seventeen always do. -/
def digits (tie : Tie) (m : Magnitude) : Digits :=
  if m.isZero then ⟨['0'], 0⟩ else
    let (num, den) := m.ratio
    let first := floorLog10 num den
    match (List.range 17).findSome? fun (n : Nat) => onGrid tie m.rank num den (first - n) with
    | some c => c.toDigits
    | none => Candidate.toDigits ⟨num / den, 0⟩

end Shortest

structure Layout where
  /-- Whether a number whose first digit has this decimal exponent is written without one. -/
  positional : Int → Bool
  /-- What follows a whole number. -/
  wholeEnd : List Char
  /-- Whether a positive exponent is written with its sign. -/
  plusSign : Bool
  tie : Tie

namespace Layout

/-- Digits around a point, with zeros where the digits do not reach it. -/
def plainDigits (layout : Layout) (d : Digits) : List Char :=
  if d.exponent < 0 then
    '0' :: '.' :: (List.replicate (-d.exponent - 1).toNat '0' ++ d.digits)
  else
    let whole := d.exponent.toNat + 1
    let fraction := d.digits.drop whole
    d.digits.take whole ++ List.replicate (whole - d.digits.length) '0' ++
      if fraction.isEmpty then layout.wholeEnd else '.' :: fraction

def scientificDigits (layout : Layout) (d : Digits) : List Char :=
  let fraction := d.digits.drop 1
  d.digits.take 1 ++ (if fraction.isEmpty then [] else '.' :: fraction) ++ ['e'] ++
    (if d.exponent < 0 then ['-'] else if layout.plusSign then ['+'] else []) ++
    Nat.toDigits 10 d.exponent.natAbs

def magnitudeChars (layout : Layout) (m : Magnitude) : List Char :=
  let d := Shortest.digits layout.tie m
  if layout.positional d.exponent then layout.plainDigits d else layout.scientificDigits d

def write (layout : Layout) : Binary64 → String
  | .nan => "NaN"
  | .infinite negative => if negative then "-inf" else "inf"
  | .finite negative m =>
    String.ofList ((if negative then ['-'] else []) ++ layout.magnitudeChars m)

/-- Plain decimal notation for every size: `2`, `0.1`, `-0`. -/
def plain : Layout where
  positional _ := true
  wholeEnd := []
  plusSign := false
  tie := .up

/-- Plain decimal notation in which a whole number keeps a fraction: `2.0`. -/
def fractional : Layout := { plain with wholeEnd := ['.', '0'] }

/-- Numbers inside a JSON text: plain from `0.00001` up to below `10 ^ 16`, else with an exponent. -/
def json : Layout where
  positional e := -5 ≤ e && e < 16
  wholeEnd := ['.', '0']
  plusSign := true
  tie := .toEven

end Layout

def Binary64.toText (x : Binary64) : String := Layout.plain.write x

instance : ToString Binary64 := ⟨Binary64.toText⟩

end EntityQuery.Number
