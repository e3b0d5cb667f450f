import EntityQuery.Number.Shortest

/-!
# Reading numbers

* `readInteger?`: an optional sign and decimal digits, within 64 signed bits.
* `Numeral`: a decimal number with an optional point and exponent, read by `Numeral.read?`.
* `readBinary64?`: a numeral, `inf`, `infinity` or `nan`, rounded to the nearest double.

Digits are the ten ASCII digits; nothing may stand before or after the number.
-/

namespace EntityQuery.Number

/-- The text of an optional sign and what follows it; `true` stands for minus. -/
def splitSign : List Char → Bool × List Char
  | '-' :: rest => (true, rest)
  | '+' :: rest => (false, rest)
  | cs => (false, cs)

def digitsValue (cs : List Char) : Nat := Nat.ofDigitChars 10 cs 0

def leadingDigits (cs : List Char) : List Char := cs.takeWhile Char.isDigit

def afterDigits (cs : List Char) : List Char := cs.dropWhile Char.isDigit

def isDigits (cs : List Char) : Bool := !cs.isEmpty && cs.all Char.isDigit

def readInt? (s : String) : Option Int :=
  let (negative, digits) := splitSign s.toList
  if isDigits digits then
    some (if negative then -(digitsValue digits : Int) else digitsValue digits)
  else none

def readInteger? (s : String) : Option Int64 :=
  (readInt? s).bind fun n =>
    if Int64.minValue.toInt ≤ n ∧ n ≤ Int64.maxValue.toInt then some (Int64.ofInt n) else none

/-- A decimal numeral: `coefficient * 10 ^ exponent` with a sign. -/
structure Numeral where
  negative : Bool
  coefficient : Nat
  exponent : Int

namespace Numeral

/-- The exponent that ends a numeral: nothing, or `e` with an optional sign and digits. -/
def readExponent? : List Char → Option Int
  | [] => some 0
  | e :: rest =>
    if e == 'e' || e == 'E' then
      let (negative, digits) := splitSign rest
      if isDigits digits then
        some (if negative then -(digitsValue digits : Int) else digitsValue digits)
      else none
    else none

def splitFraction : List Char → List Char × List Char
  | '.' :: rest => (leadingDigits rest, afterDigits rest)
  | cs => ([], cs)

/-- Digits with at most one point among or around them, then an optional exponent. -/
def read? (negative : Bool) (cs : List Char) : Option Numeral :=
  let whole := leadingDigits cs
  let (fraction, rest) := splitFraction (afterDigits cs)
  if whole.isEmpty && fraction.isEmpty then none
  else (readExponent? rest).map fun exponent =>
    ⟨negative, digitsValue (whole ++ fraction), exponent - fraction.length⟩

/-- A magnitude this large rounds to infinity in every format here, and one this small to zero. -/
def exponentBound : Int := 400

def rank (f : BinaryFormat) (n : Numeral) : Nat :=
  let size := (Shortest.digitCount n.coefficient : Int) + n.exponent
  if n.coefficient = 0 ∨ size < -exponentBound then 0
  else if exponentBound < size then f.infinity
  else f.rankOfRatio (n.coefficient * Nat.pow 10 n.exponent.toNat) (Nat.pow 10 (-n.exponent).toNat)

end Numeral

/-- The signed number of a format's rank, widened to double precision if need be. -/
def Binary64.ofRank (f : BinaryFormat) (negative : Bool) (rank : Nat) : Binary64 :=
  if rank < f.infinity then .ofRatio negative (f.ratio rank).1 (f.ratio rank).2
  else .infinite negative

def readBinary? (f : BinaryFormat) (s : String) : Option Binary64 :=
  let (negative, cs) := splitSign s.toList
  let word := String.ofList (cs.map Char.toLower)
  if word = "inf" ∨ word = "infinity" then some (.infinite negative)
  else if word = "nan" then some .nan
  else (Numeral.read? negative cs).map fun n => .ofRank f negative (n.rank f)

def readBinary64? (s : String) : Option Binary64 := readBinary? .double s

def readBinary32? (s : String) : Option Binary64 := readBinary? .single s

end EntityQuery.Number
