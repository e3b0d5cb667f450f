/-!
# Binary floating-point numbers

Double-precision numbers as data, with exact arithmetic on natural numbers in place of machine
operations.

* `BinaryFormat`: the magnitudes of a format in ascending order, each known by its rank;
  `BinaryFormat.rankOfRatio` rounds an exact quotient to the nearest of them.
* `Magnitude`: the finite magnitudes of the double format.
* `Binary64`: a magnitude with a sign, an infinity, or no number at all. `==` compares as numbers.
-/

namespace EntityQuery.Number

/-- The quotient to the nearest whole number; a half goes to the even neighbour. -/
def roundHalfEven (num den : Nat) : Nat :=
  let quotient := num / den
  let doubled := 2 * (num % den)
  if doubled < den then quotient
  else if den < doubled then quotient + 1
  else if quotient % 2 = 0 then quotient
  else quotient + 1

/-- A binary floating-point format. Its magnitudes are numbered upwards from zero: the first
`2 ^ (precision - 1)` are that many multiples of the finest step `2 ^ minExponent`, and each
further run of as many has twice the step of the run before it. -/
structure BinaryFormat where
  /-- Significant bits, the leading one included. -/
  precision : Nat
  /-- The exponent of the finest step. -/
  minExponent : Int
  /-- The rank at which the finite magnitudes end. -/
  infinity : Nat

/-- Eight bytes: 53 significant bits. -/
def BinaryFormat.double : BinaryFormat := ⟨53, -1074, 0x7FF0000000000000⟩

def BinaryFormat.single : BinaryFormat := ⟨24, -149, 0x7F800000⟩

namespace BinaryFormat

/-- The number of magnitudes that share one step. -/
def run (f : BinaryFormat) : Nat := 1 <<< (f.precision - 1)

def significand (f : BinaryFormat) (rank : Nat) : Nat :=
  if rank < f.run then rank else f.run + rank % f.run

def exponent (f : BinaryFormat) (rank : Nat) : Int :=
  f.minExponent + (rank / f.run - 1 : Nat)

def ratio (f : BinaryFormat) (rank : Nat) : Nat × Nat :=
  (f.significand rank <<< (f.exponent rank).toNat, 1 <<< (-f.exponent rank).toNat)

/-- The largest `k` with `2 ^ k ≤ num / den`, for a positive fraction. -/
def floorLog2 (num den : Nat) : Int :=
  let guess : Int := (num.log2 : Int) - den.log2
  if den <<< guess.toNat ≤ num <<< (-guess).toNat then guess else guess - 1

/-- The rank of the magnitude nearest to `num / den`, a half going to the even rank. A quotient
that rounds past the finite magnitudes has the rank `infinity`. -/
def rankOfRatio (f : BinaryFormat) (num den : Nat) : Nat :=
  if num = 0 then 0 else
    let step := max f.minExponent (floorLog2 num den - (f.precision - 1 : Nat))
    let multiple := roundHalfEven (num <<< (-step).toNat) (den <<< step.toNat)
    min f.infinity ((step - f.minExponent).toNat * f.run + multiple)

end BinaryFormat

structure Magnitude where
  rank : Nat
  rank_lt : rank < BinaryFormat.double.infinity := by decide
  deriving DecidableEq

namespace Magnitude

def zero : Magnitude where
  rank := 0

def ofRank? (rank : Nat) : Option Magnitude :=
  if h : rank < BinaryFormat.double.infinity then some ⟨rank, h⟩ else none

def ofRatio? (num den : Nat) : Option Magnitude :=
  ofRank? (BinaryFormat.double.rankOfRatio num den)

def ratio (m : Magnitude) : Nat × Nat := BinaryFormat.double.ratio m.rank

def isZero (m : Magnitude) : Bool := m.rank == 0

def mul? (a b : Magnitude) : Option Magnitude :=
  ofRatio? (a.ratio.1 * b.ratio.1) (a.ratio.2 * b.ratio.2)

/-- The rounded quotient, if it is finite; the divisor is not zero. -/
def div? (a b : Magnitude) : Option Magnitude :=
  ofRatio? (a.ratio.1 * b.ratio.2) (a.ratio.2 * b.ratio.1)

end Magnitude

inductive Binary64 where
  | nan
  | infinite (negative : Bool)
  | finite (negative : Bool) (magnitude : Magnitude)
  deriving DecidableEq

namespace Binary64

def isFinite : Binary64 → Bool
  | finite .. => true
  | _ => false

/-- The magnitude with a sign; past the finite ones, an infinity. -/
def ofMagnitude? (negative : Bool) : Option Magnitude → Binary64
  | some m => finite negative m
  | none => infinite negative

def ofRatio (negative : Bool) (num den : Nat) : Binary64 :=
  ofMagnitude? negative (Magnitude.ofRatio? num den)

/-- Equality of numbers: a value that is no number differs from everything, itself included, and
the two zeros are equal. -/
def equal : Binary64 → Binary64 → Bool
  | infinite s, infinite t => s == t
  | finite s m, finite t n => m == n && (s == t || m.isZero)
  | _, _ => false

instance : BEq Binary64 := ⟨equal⟩

theorem eq_of_beq_of_ne_zero {x y : Binary64} (h : (x == y) = true)
    (hx : ∀ s m, x = finite s m → m.isZero = false) : x = y := by
  change equal x y = true at h
  cases x <;> cases y <;> simp_all [equal]

/-- The two zeros are the exception. -/
example : (finite false .zero == finite true .zero) = true := by decide

end Binary64

end EntityQuery.Number
