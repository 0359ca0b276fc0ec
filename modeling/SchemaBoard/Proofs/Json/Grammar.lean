import SchemaBoard.Json.Reader

/-!
# The grammar of JSON texts

Which texts write what, apart from any way of reading them. A `Tree` keeps what a value forgets: how
its numbers are written, and every member of its objects, also those whose name comes again.
`Written` relates trees to their texts, `Tree.value` gives the value a tree stands for, and `IsText`
is about a whole text with blanks around.
-/
namespace SchemaBoard

namespace Keyed

variable {K V : Type} [DecidableEq K]

/-- Put pairs one after another: of pairs with one key the last gives the value. -/
def collect (pairs : List (K × V)) : Keyed K V := pairs.foldl (fun m x => put x.1 x.2 m) []

end Keyed

namespace Json

open Decimal

def IsDigits (ds : List Char) : Prop := ds ≠ [] ∧ ∀ d ∈ ds, d.isDigit = true

/-- The number that digits write, behind the digits of `n`. -/
def decimal (n : Nat) (ds : List Char) : Nat := ds.foldl (fun n d => n * 10 + digitValue d) n

def real? (negative : Bool) (n : Nat) (e : Int) : Option Number :=
  (Binary64.ofDecimal negative n e).map .real

/-- A power of ten behind a number. -/
structure Power where
  mark : Char
  sign : Option Char
  digits : List Char

namespace Power

structure IsValid (x : Power) : Prop where
  mark : isExponentMark x.mark = true
  sign : x.sign = none ∨ x.sign = some '+' ∨ x.sign = some '-'
  digits : IsDigits x.digits

def write (x : Power) : List Char := x.mark :: (x.sign.toList ++ x.digits)

/-- The number with the significand `n` and the exponent `e` raised by the power; an exponent that
finds no room is too great, unless it leaves zero. -/
def number? (negative : Bool) (n : Nat) (e : Int) (x : Power) : Option Number :=
  let (k, taken) := gather greatestExponent 0 x.digits
  let lower : Bool := x.sign = some '-'
  if taken < x.digits.length then
    if n ≠ 0 && !lower then none else real? negative 0 0
  else real? negative n (if lower then e - k else e + k)

end Power

/-- A number as it is written. -/
structure Literal where
  negative : Bool
  whole : List Char
  fraction : Option (List Char)
  power : Option Power

namespace Literal

structure IsValid (l : Literal) : Prop where
  whole : IsDigits l.whole
  lead : l.whole.head? = some '0' → l.whole = ['0']
  fraction : ∀ ds ∈ l.fraction, IsDigits ds
  power : ∀ x ∈ l.power, x.IsValid

/-- What stands behind the whole digits. -/
def behindWhole (fraction : Option (List Char)) (power : Option Power) : List Char :=
  fraction.elim [] ('.' :: ·) ++ power.elim [] Power.write

/-- What stands behind the sign. -/
def magnitude (l : Literal) : List Char := l.whole ++ behindWhole l.fraction l.power

def write (l : Literal) : List Char := if l.negative then '-' :: l.magnitude else l.magnitude

/-- The digits that find room, with their exponent of ten. -/
def significand (l : Literal) : Nat × Int :=
  let (n, k) := gather greatestNatural 0 l.whole
  let e : Int := (l.whole.length - k : Nat)
  match l.fraction with
  | none => (n, e)
  | some ds =>
    let (m, k) := gather greatestNatural n ds
    (m, e - k)

/-- The whole number of a sign and digits: exact in 64 bits, but for zero with a minus sign. -/
def whole? (negative : Bool) (n : Nat) : Option Number :=
  if !negative then some (.natural (UInt64.ofNat n))
  else if n = 0 || 0x8000000000000000 < n then real? true n 0
  else some (.negSucc (UInt64.ofNat (n - 1)))

/-- The number that is written; none is beyond the greatest. -/
def number? (l : Literal) : Option Number :=
  let (n, e) := l.significand
  match l.power with
  | some x => x.number? l.negative n e
  | none => if l.fraction.isSome || e ≠ 0 then real? l.negative n e else whole? l.negative n

/-- The number `n` in digits alone: without a sign, a fraction or a power of ten. -/
structure IsUnsigned (l : Literal) (n : Nat) : Prop where
  positive : l.negative = false
  integral : l.fraction = none
  plain : l.power = none
  digits : decimal 0 l.whole = n

end Literal

/-- A literal that is well formed and in range. -/
structure Numeral extends Literal where
  valid : toLiteral.IsValid
  inRange : toLiteral.number?.isSome = true

def Numeral.number (n : Numeral) : Number := n.toLiteral.number?.get n.inRange

/-- What a text says, with all that is written in it. -/
inductive Tree where
  | null
  | bool (b : Bool)
  | number (n : Numeral)
  | string (s : String)
  | array (items : List Tree)
  | object (members : List (String × Tree))

namespace Tree

mutual

/-- The value of a tree; of members with one name the last counts. -/
@[simp] def value : Tree → Value
  | .null => .null
  | .bool b => .bool b
  | .number n => .number n.number
  | .string s => .string s
  | .array ts => .array (values ts)
  | .object ms => .object (Keyed.collect (members ms))

def values : List Tree → List Value
  | [] => []
  | t :: ts => t.value :: values ts

def members : List (String × Tree) → List (String × Value)
  | [] => []
  | (n, t) :: ms => (n, t.value) :: members ms

end

/-- The last member of a name. -/
def member? (name : String) : Tree → Option Tree
  | .object ms => ms.reverse.lookup name
  | _ => none

end Tree

def Blank (b : List Char) : Prop := ∀ c ∈ b, Cursor.isBlank c = true

/-- The ways to write a character of a string. -/
inductive Spelling : Char → List Char → Prop
  | plain {c : Char} : 32 ≤ c.toNat → c ≠ '\x22' → c ≠ '\\' → Spelling c [c]
  | short {c d : Char} : shortEscape? d = some c → Spelling c ['\\', d]
  | unit {x y z w : Char} {n : Nat} : hexNumber? x y z w = some n → isLeading n = false →
      isTrailing n = false → Spelling (Char.ofNat n) ['\\', 'u', x, y, z, w]
  | pair {x y z w x' y' z' w' : Char} {n m : Nat} : hexNumber? x y z w = some n →
      hexNumber? x' y' z' w' = some m → isLeading n = true → isTrailing m = true →
      Spelling (Char.ofNat ((n - 0xd800) * 0x400 + (m - 0xdc00) + 0x10000))
        ['\\', 'u', x, y, z, w, '\\', 'u', x', y', z', w']

inductive Spelled : List Char → List Char → Prop
  | nil : Spelled [] []
  | cons {c : Char} {cs q r : List Char} : Spelling c q → Spelled cs r → Spelled (c :: cs) (q ++ r)

/-- A string between quotes. -/
def Quoted (s : String) (w : List Char) : Prop :=
  ∃ q, Spelled s.toList q ∧ w = '\x22' :: (q ++ ['\x22'])

/-- What stands before a part: blanks, with a comma among them unless the part is the first. -/
def Lead (first : Bool) (b : List Char) : Prop :=
  if first then Blank b else ∃ x y, Blank x ∧ Blank y ∧ b = x ++ ',' :: y

/-- Parts one after another. -/
inductive Parts {α : Type} (part : α → List Char → Prop) : Bool → List α → List Char → Prop
  | nil {first : Bool} : Parts part first [] []
  | cons {first : Bool} {a : α} {as : List α} {b w r : List Char} : Lead first b → part a w →
      Parts part false as r → Parts part first (a :: as) (b ++ (w ++ r))

/-- Parts between brackets. -/
def Enclosed {α : Type} (opening closing : Char) (part : α → List Char → Prop) (as : List α)
    (w : List Char) : Prop :=
  ∃ q b, Parts part true as q ∧ Blank b ∧ w = opening :: (q ++ (b ++ [closing]))

/-- A member of an object: its name, a colon and what it holds. -/
def MemberText {α : Type} (part : α → List Char → Prop) (m : String × α) (w : List Char) : Prop :=
  ∃ q x y r, Quoted m.1 q ∧ Blank x ∧ Blank y ∧ part m.2 r ∧ w = q ++ (x ++ ':' :: (y ++ r))

/-- What is written without brackets. -/
def WrittenScalar : Tree → List Char → Prop
  | .null, w => w = "null".toList
  | .bool b, w => w = (if b then "true" else "false").toList
  | .number n, w => w = n.write
  | .string s, w => Quoted s w
  | .array _, _ | .object _, _ => False

/-- A tree is written by a text; at most `depth` lists and objects are inside one another. -/
def Written : Nat → Tree → List Char → Prop
  | depth + 1, .array ts, w => Enclosed '[' ']' (Written depth) ts w
  | depth + 1, .object ms, w => Enclosed '\x7b' '\x7d' (MemberText (Written depth)) ms w
  | _, t, w => WrittenScalar t w

/-- A whole text that writes a tree. -/
def IsText (s : String) (t : Tree) : Prop :=
  ∃ x w y, Blank x ∧ Written greatestDepth t w ∧ Blank y ∧ s.toList = x ++ (w ++ y)

end Json
end SchemaBoard
