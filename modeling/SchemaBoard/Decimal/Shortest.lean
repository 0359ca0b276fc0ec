import SchemaBoard.Decimal.Binary64

/-!
# The fewest decimal digits

Of the decimal numbers that read back as a given binary number, those with the fewest digits, and of
these the nearest.
-/
namespace SchemaBoard.Decimal

/-- The number `digits · 10 ^ exponent`. -/
structure Digits where
  digits : Nat
  exponent : Int
  deriving DecidableEq, Repr

/-- Whether `a · 10 ^ g ≤ b · 2 ^ e`. -/
def leScaled (a : Nat) (g : Int) (b : Nat) (e : Int) : Bool :=
  a * tenTo g.toNat * twoTo (-e).toNat ≤ b * twoTo e.toNat * tenTo (-g).toNat

/-- Whether `b · 2 ^ e ≤ a · 10 ^ g`. -/
def geScaled (a : Nat) (g : Int) (b : Nat) (e : Int) : Bool :=
  b * twoTo e.toNat * tenTo (-g).toNat ≤ a * tenTo g.toNat * twoTo (-e).toNat

namespace Binary64

/-- Whether `a · 10 ^ g` lies nearer to the positive number than to its neighbours; the midpoints
belong to an even significand. -/
def covers (x : Binary64) (a : Nat) (g : Int) : Bool :=
  let e := x.exponent - 2
  let low := 4 * x.mantissa -
    (if x.mantissa = twoTo 52 && leastExponent < x.exponent then 1 else 2)
  let high := 4 * x.mantissa + 2
  if x.mantissa % 2 = 0 then geScaled a g low e && leScaled a g high e
  else !leScaled a g low e && !geScaled a g high e

/-- The exponent of the leading decimal digit of a positive number. -/
def leadingExponent (x : Binary64) : Int :=
  let guess := ((x.mantissa.log2 : Int) + x.exponent) * 30103 / 100000
  if leScaled 1 (guess + 1) x.mantissa x.exponent then guess + 1
  else if leScaled 1 guess x.mantissa x.exponent then guess
  else guess - 1

/-- The whole part of `x / 10 ^ g`. -/
def wholeAt (x : Binary64) (g : Int) : Nat :=
  (x.mantissa * twoTo x.exponent.toNat * tenTo (-g).toNat)
    / (tenTo g.toNat * twoTo (-x.exponent).toNat)

/-- Whether `x` lies nearer to `a · 10 ^ g` than to the next point of that grid. -/
def isNearBelow (x : Binary64) (a : Nat) (g : Int) : Bool :=
  let middle := 2 * a + 1
  let x2 := 2 * x.mantissa
  if leScaled middle g x2 x.exponent then
    geScaled middle g x2 x.exponent && a % 2 = 0
  else true

/-- The digits at the first grid, from `n` digits on, that has a point which reads back. -/
def digitsFrom (x : Binary64) (lead : Int) : Nat → Nat → Digits
  | 0, n => ⟨x.wholeAt (lead - n + 1), lead - n + 1⟩
  | fuel + 1, n =>
    let g := lead - n + 1
    let a := x.wholeAt g
    match x.covers a g, x.covers (a + 1) g with
    | true, true => ⟨if x.isNearBelow a g then a else a + 1, g⟩
    | true, false => ⟨a, g⟩
    | false, true => ⟨a + 1, g⟩
    | false, false => digitsFrom x lead fuel (n + 1)

end Binary64

/-- Leave out the zeros at the end. -/
def Digits.trim : Nat → Digits → Digits
  | 0, d => d
  | fuel + 1, d =>
    if d.digits ≠ 0 && d.digits % 10 = 0 then trim fuel ⟨d.digits / 10, d.exponent + 1⟩ else d

/-- The fewest digits that read back as the number, its sign left out. Seventeen always do. -/
def Binary64.shortest (x : Binary64) : Digits :=
  if x.isZero then ⟨0, 0⟩ else (x.digitsFrom x.leadingExponent 17 1).trim 18

end SchemaBoard.Decimal
