import SchemaBoard.Decimal.Binary64
import SchemaBoard.Keyed

/-!
# JSON values

Numbers keep the form they were read in: whole numbers of 64 bits and binary fractions are told
apart. The members of an object stand in the order in which their names first came; a name that
comes again replaces the value and keeps the place.
-/
namespace SchemaBoard.Json

open Decimal

inductive Number where
  | natural (n : UInt64)
  /-- The number `-(n + 1)`. -/
  | negSucc (n : UInt64)
  | real (x : Binary64)
  deriving DecidableEq, Repr

inductive Value where
  | null
  | bool (b : Bool)
  | number (n : Number)
  | string (s : String)
  | array (items : List Value)
  | object (members : List (String × Value))
  deriving Repr

namespace Number

def ofNat (n : Nat) : Number := .natural (UInt64.ofNat n)

/-- A number without a fractional part. -/
def isWhole : Number → Bool
  | .natural _ => true
  | .negSucc _ => true
  | .real x => x.isWhole

def isNegative : Number → Bool
  | .natural _ => false
  | .negSucc _ => true
  | .real x => x.isNegative

/-- Equality of numbers of one form; both zeros of the binary fractions are one number. -/
def same : Number → Number → Bool
  | .natural a, .natural b => a = b
  | .negSucc a, .negSucc b => a = b
  | .real a, .real b => a.same b
  | _, _ => false

end Number

namespace Value

def text (s : String) : Value := .string s

def nat (n : Nat) : Value := .number (.ofNat n)

/-- The first member of a name. -/
def member? (name : String) : Value → Option Value
  | .object members => members.lookup name
  | _ => none

mutual

/-- Equality of values: the order of an object's members does not count. -/
def same : Value → Value → Bool
  | .null, .null => true
  | .bool a, .bool b => a = b
  | .number a, .number b => a.same b
  | .string a, .string b => a = b
  | .array a, .array b => sameItems a b
  | .object a, .object b => a.length = b.length && sameMembers a b
  | _, _ => false

def sameItems : List Value → List Value → Bool
  | [], [] => true
  | a :: as, b :: bs => same a b && sameItems as bs
  | _, _ => false

/-- Whether each member has an equal one of its name in `b`. -/
def sameMembers : List (String × Value) → List (String × Value) → Bool
  | [], _ => true
  | (n, v) :: rest, b =>
    (match b.lookup n with
      | some w => same v w
      | none => false) && sameMembers rest b

end

instance : BEq Value := ⟨same⟩

end Value
end SchemaBoard.Json
