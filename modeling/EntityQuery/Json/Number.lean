import EntityQuery.Json.Fault

/-!
# Numbers in JSON texts

A JSON number without fraction and exponent that fits 64 bits is whole. Any other is rounded in three
steps: as many leading digits as fit 64 bits are rounded to a double, so is the power of ten that the
other digits and the exponent make up, and so is the product of the two. A number that comes out
too large is refused.
-/

namespace EntityQuery.Json

open Number

/-- Appends digits to a number for as long as it stays below a limit; what is left are the digits that
would take it further. -/
def accumulate (limit : Nat) : Nat → List Char → Nat × List Char
  | n, [] => (n, [])
  | n, d :: ds =>
    let next := 10 * n + digitsValue [d]
    if next < limit then accumulate limit next ds else (n, d :: ds)

def powerOfTen (k : Nat) : Magnitude := (Magnitude.ofRatio? (Nat.pow 10 k) 1).getD .zero

def maxPower : Nat := 308

/-- The magnitude times `10 ^ exponent`, rounded at each step; `none` if it is too large. -/
def scale (m : Magnitude) (exponent : Int) : Option Magnitude :=
  if exponent.natAbs ≤ maxPower then
    if 0 ≤ exponent then m.mul? (powerOfTen exponent.natAbs)
    else m.div? (powerOfTen exponent.natAbs)
  else if m.isZero then some m
  else if 0 ≤ exponent then none
  else (m.div? (powerOfTen maxPower)).bind fun m => scale m (exponent + maxPower)
termination_by exponent.natAbs
decreasing_by simp only [maxPower] at *; omega

def rounded? (negative : Bool) (significand : Nat) (exponent : Int) : Option JsonNumber := do
  let m ← Magnitude.ofRatio? significand 1
  return .rounded (.finite negative (← scale m exponent))

/-- A number without fraction and exponent that fits 64 bits. One that is negative and does not fit
a signed word, and negative zero, are rounded. -/
def ofWhole (negative : Bool) (n : Nat) : JsonNumber :=
  if negative then
    if n = 0 ∨ (-n : Int) < Int64.minValue.toInt then .rounded (.ofRatio true n 1) else .whole (-n)
  else .whole n

structure NumberParts where
  negative : Bool
  whole : List Char
  /-- The digits after the point, if there is one. -/
  fraction : Option (List Char)
  /-- The sign and the digits of the exponent, if there is one. -/
  exponent : Option (Bool × List Char)

/-- An exponent from here on counts as overflow, whatever the digits before it. -/
def exponentLimit : Nat := 0x80000000

def NumberParts.number? (p : NumberParts) : Option JsonNumber :=
  let (n, beyond) := accumulate UInt64.size 0 p.whole
  match p.fraction, p.exponent with
  | none, none =>
    if beyond.isEmpty then some (ofWhole p.negative n)
    else rounded? p.negative n beyond.length
  | fraction, exponent =>
    let digits := fraction.getD []
    let (significand, unused) := accumulate UInt64.size n digits
    let shift : Int := beyond.length - (digits.length - unused.length : Nat)
    match exponent with
    | none => rounded? p.negative significand shift
    | some (down, digits) =>
      let (power, beyond) := accumulate exponentLimit 0 digits
      if beyond.isEmpty then
        rounded? p.negative significand (if down then shift - power else shift + power)
      else if significand = 0 ∨ down then some (.rounded (.finite p.negative .zero))
      else none

/-- The digits of an exponent after the one that makes it too large. -/
def NumberParts.unread (p : NumberParts) : List Char :=
  match p.exponent with
  | none => []
  | some (_, digits) => (accumulate exponentLimit 0 digits).2.drop 1

theorem length_afterDigits_le (cs : List Char) : (afterDigits cs).length ≤ cs.length :=
  (List.dropWhile_suffix _).length_le

theorem length_splitSign_le (cs : List Char) : (splitSign cs).2.length ≤ cs.length := by
  unfold splitSign
  split <;> simp

def readDigits : (cs : List Char) → Except Fault (Consumed (List Char) cs)
  | [] => stopAtEnd .endInValue
  | c :: rest =>
    if c.isDigit then
      .ok (.after c ⟨c :: leadingDigits rest, afterDigits rest, length_afterDigits_le rest⟩)
    else stopAt .invalidNumber c rest

/-- The digits before the point, of which the first is given: a zero stands alone. -/
def readWhole (c : Char) (rest : List Char) : Except Fault (Consumed (List Char) rest) :=
  if !c.isDigit then stopAt .invalidNumber c rest
  else if c = '0' ∧ rest.head?.any Char.isDigit then .error ⟨.invalidNumber, rest, 1⟩
  else .ok ⟨c :: leadingDigits rest, afterDigits rest, length_afterDigits_le rest⟩

def readFraction : (cs : List Char) → Except Fault (Consumed (Option (List Char)) cs)
  | '.' :: rest => do return ((← readDigits rest).map some).after '.'
  | cs => .ok (.here none cs)

def readExponent : (cs : List Char) → Except Fault (Consumed (Option (Bool × List Char)) cs)
  | [] => .ok (.here none [])
  | e :: rest =>
    if e == 'e' || e == 'E' then do
      let digits ← readDigits (splitSign rest).2
      return ((digits.map fun digits => some ((splitSign rest).1, digits)).within (length_splitSign_le rest)).after e
    else .ok (.here none (e :: rest))

def readNumber (negative : Bool) (c : Char) (rest : List Char) : Except Fault (Consumed JsonNumber rest) := do
  let whole ← readWhole c rest
  let fraction ← readFraction whole.rest
  let exponent ← readExponent fraction.rest
  let parts : NumberParts := ⟨negative, whole.value, fraction.value, exponent.value⟩
  match parts.number? with
  | some n => return (exponent.map fun _ => n).within (Nat.le_trans fraction.rest_le whole.rest_le)
  | none => .error ⟨.numberOutOfRange, parts.unread ++ exponent.rest, 0⟩

end EntityQuery.Json
