/-!
# Binary fractions of 53 digits

A finite number of the 64-bit binary format, kept as sign, significand and exponent. Every operation
rounds its exact result once, to the nearest number and to an even significand in the middle.
-/
namespace SchemaBoard.Decimal

/-- The number `±mantissa · 2 ^ exponent`. -/
structure Binary64 where
  negative : Bool
  mantissa : Nat
  exponent : Int
  deriving DecidableEq, Repr

/-- A power of two. -/
def twoTo (n : Nat) : Nat := Nat.pow 2 n

/-- A power of ten. -/
def tenTo (n : Nat) : Nat := Nat.pow 10 n

/-- The whole number nearest to a quotient; in the middle the even one. -/
def roundDiv (num den : Nat) : Nat :=
  let whole := num / den
  let rest := 2 * (num % den)
  if rest < den then whole
  else if den < rest then whole + 1
  else whole + whole % 2

namespace Binary64

def leastExponent : Int := -1074

def greatestExponent : Int := 971

def zero : Binary64 := ⟨false, 0, leastExponent⟩

def isZero (x : Binary64) : Bool := x.mantissa = 0

def negate (x : Binary64) : Binary64 := { x with negative := !x.negative }

/-- `num / den / 2 ^ e`, rounded. -/
def scaled (num den : Nat) (e : Int) : Nat :=
  if 0 ≤ e then roundDiv num (den * twoTo e.toNat)
  else roundDiv (num * twoTo (-e).toNat) den

/-- The exponent at which a positive quotient has a significand of 53 binary digits, or the least
one. -/
def exponentFor (num den : Nat) : Int :=
  let low : Int := (num.log2 : Int) - (den.log2 : Int) - 53
  let fits : Bool :=
    if 0 ≤ low then num < twoTo 53 * (den * twoTo low.toNat)
    else num * twoTo (-low).toNat < twoTo 53 * den
  max leastExponent (if fits then low else low + 1)

/-- The number nearest to a quotient; `none` when it is beyond the greatest. -/
def ofQuotient (negative : Bool) (num den : Nat) : Option Binary64 :=
  if num = 0 then some ⟨negative, 0, leastExponent⟩
  else
    let e := exponentFor num den
    let m := scaled num den e
    let (m, e) := if m = twoTo 53 then (twoTo 52, e + 1) else (m, e)
    if greatestExponent < e then none else some ⟨negative, m, e⟩

/-- The positive number as a quotient. -/
def quotient (x : Binary64) : Nat × Nat :=
  if 0 ≤ x.exponent then (x.mantissa * twoTo x.exponent.toNat, 1)
  else (x.mantissa, twoTo (-x.exponent).toNat)

def mul (x y : Binary64) : Option Binary64 :=
  let (a, b) := x.quotient
  let (c, d) := y.quotient
  ofQuotient (x.negative != y.negative) (a * c) (b * d)

def div (x y : Binary64) : Option Binary64 :=
  let (a, b) := x.quotient
  let (c, d) := y.quotient
  ofQuotient (x.negative != y.negative) (a * d) (b * c)

def ofNat (n : Nat) : Option Binary64 := ofQuotient false n 1

/-- A number without a fractional part. -/
def isWhole (x : Binary64) : Bool :=
  let (a, b) := x.quotient
  a % b = 0

def isNegative (x : Binary64) : Bool := x.negative && !x.isZero

/-- Equality of values: both zeros are one value. -/
def same (x y : Binary64) : Bool := x = y || (x.isZero && y.isZero)

/-- The greatest power of ten that is taken in one step. -/
def greatestPower : Nat := 308

def powerOfTen (n : Nat) : Binary64 := (ofNat (tenTo n)).getD zero

/-- Divide by the greatest power of ten, until nothing is left of the number. -/
def lower : Nat → Binary64 → Option Binary64
  | 0, x => some x
  | n + 1, x => if x.isZero then some x else (x.div (powerOfTen greatestPower)).bind (lower n)

/-- `x · 10 ^ e`, by one multiplication or division with a power of ten; where the power is too
great, the number is divided by the greatest one first. -/
def shift (x : Binary64) (e : Int) : Option Binary64 :=
  let size := e.natAbs
  if size ≤ greatestPower then
    if 0 ≤ e then x.mul (powerOfTen size) else x.div (powerOfTen size)
  else if x.isZero then some x
  else if 0 ≤ e then none
  else
    let steps := (size - 1) / greatestPower
    (lower steps x).bind fun y => y.div (powerOfTen (size - steps * greatestPower))

/-- The number with the decimal digits `significand` and the decimal exponent `e`. -/
def ofDecimal (negative : Bool) (significand : Nat) (e : Int) : Option Binary64 := do
  let x ← ofNat significand
  let y ← x.shift e
  return if negative then y.negate else y

end Binary64
end SchemaBoard.Decimal
