import SchemaBoard.Json.Cursor

/-!
# Reading numbers

The digits of a number are gathered in 64 bits. Digits that find no room there count as zeros before
the point and not at all behind it. A whole number that fits is kept exactly; every other number
becomes a binary fraction.
-/
namespace SchemaBoard.Json

open Decimal

def greatestNatural : Nat := 0xffffffffffffffff

def greatestExponent : Nat := 0x7fffffff

def digitValue (c : Char) : Nat := c.toNat - 48

/-- Gather digits behind `n` while the number stays within the limit; with the count of those
gathered. -/
def gather (limit : Nat) : Nat → List Char → Nat × Nat
  | n, [] => (n, 0)
  | n, d :: ds =>
    let m := n * 10 + digitValue d
    if m ≤ limit then
      let (v, k) := gather limit m ds
      (v, k + 1)
    else (n, 0)

def leadingDigits (c : Cursor) : List Char := c.rest.takeWhile Char.isDigit

def startsWith (p : Char → Bool) (c : Cursor) : Bool := c.rest.head?.any p

def isExponentMark (c : Char) : Bool := c = 'e' || c = 'E'

/-- The binary fraction of gathered digits. -/
def toReal (negative : Bool) (n : Nat) (e : Int) (c : Cursor) : Except Fault (Number × Cursor) :=
  match Binary64.ofDecimal negative n e with
  | some x => .ok (.real x, c)
  | none => .error (c.here .numberTooGreat)

/-- An exponent, from its mark on, behind digits with the exponent `e`. -/
def readExponent (negative : Bool) (n : Nat) (e : Int) (c : Cursor) :
    Except Fault (Number × Cursor) :=
  let mark := c.advance 1
  let signed := startsWith (fun d => d = '+' || d = '-') mark
  let lower := startsWith (· = '-') mark
  let c := if signed then mark.advance 1 else mark
  if c.rest.isEmpty then .error (c.here .endInValue)
  else
    let ds := leadingDigits c
    if ds.isEmpty then .error (c.next .badNumber)
    else
      let (x, k) := gather greatestExponent 0 ds
      if k < ds.length then
        if n ≠ 0 && !lower then .error ((c.advance (k + 1)).here .numberTooGreat)
        else toReal negative 0 0 (c.advance ds.length)
      else toReal negative n (if lower then e - x else e + x) (c.advance ds.length)

/-- Places behind the point, from the point on. -/
def readFraction (negative : Bool) (n : Nat) (e : Int) (c : Cursor) :
    Except Fault (Number × Cursor) :=
  let c := c.advance 1
  let ds := leadingDigits c
  if ds.isEmpty then .error (c.next (if c.rest.isEmpty then .endInValue else .badNumber))
  else
    let (m, k) := gather greatestNatural n ds
    let c := c.advance ds.length
    if startsWith isExponentMark c then readExponent negative m (e - k) c
    else toReal negative m (e - k) c

/-- A whole number that fits 64 bits; zero with a minus sign and what is below the least signed
number do not. -/
def toWhole (negative : Bool) (n : Nat) (c : Cursor) : Except Fault (Number × Cursor) :=
  if !negative then .ok (.natural (UInt64.ofNat n), c)
  else if n = 0 || 0x8000000000000000 < n then toReal true n 0 c
  else .ok (.negSucc (UInt64.ofNat (n - 1)), c)

/-- A number from behind its sign. -/
def readNumber (negative : Bool) (c : Cursor) : Except Fault (Number × Cursor) :=
  let ds := leadingDigits c
  match ds with
  | [] => .error (if c.rest.isEmpty then c.here .endInValue else c.next .badNumber)
  | d :: more =>
    if d = '0' && !more.isEmpty then .error ((c.advance 1).next .badNumber)
    else
      let (n, k) := gather greatestNatural 0 ds
      let e : Int := (ds.length - k : Nat)
      let c := c.advance ds.length
      if startsWith (· = '.') c then readFraction negative n e c
      else if startsWith isExponentMark c then readExponent negative n e c
      else if k < ds.length then toReal negative n e c
      else toWhole negative n c

/-- Pass digits. -/
def passDigits (c : Cursor) : Cursor := c.advance (leadingDigits c).length

def passExponent (c : Cursor) : Except Fault Cursor :=
  let mark := c.advance 1
  let c := if startsWith (fun d => d = '+' || d = '-') mark then mark.advance 1 else mark
  if (leadingDigits c).isEmpty then .error (c.next .badNumber) else .ok (passDigits c)

def passFraction (c : Cursor) : Except Fault Cursor :=
  let c := c.advance 1
  if (leadingDigits c).isEmpty then .error (c.next .badNumber)
  else
    let c := passDigits c
    if startsWith isExponentMark c then passExponent c else .ok c

/-- Pass a number from behind its sign. -/
def passNumber (c : Cursor) : Except Fault Cursor :=
  match leadingDigits c with
  | [] => .error (c.next .badNumber)
  | d :: more =>
    if d = '0' && !more.isEmpty then .error ((c.advance 1).next .badNumber)
    else
      let c := passDigits c
      if startsWith (· = '.') c then passFraction c
      else if startsWith isExponentMark c then passExponent c
      else .ok c

end SchemaBoard.Json
