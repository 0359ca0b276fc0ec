import SchemaBoard.Decimal.Shortest
import SchemaBoard.Json.Value

/-!
# Writing JSON

Values are written without blanks, members in their order. Characters are written as they are, but
for the quote, the backslash and the control characters.
-/
namespace SchemaBoard.Json

open Decimal

def hexDigit (n : Nat) : Char := Nat.digitChar n

def escapeChar (c : Char) : List Char :=
  match c with
  | '\x22' => ['\\', '\x22']
  | '\\' => ['\\', '\\']
  | '\x08' => ['\\', 'b']
  | '\t' => ['\\', 't']
  | '\n' => ['\\', 'n']
  | '\x0c' => ['\\', 'f']
  | '\r' => ['\\', 'r']
  | c =>
    if c.toNat < 32 then ['\\', 'u', '0', '0', hexDigit (c.toNat / 16), hexDigit (c.toNat % 16)]
    else [c]

/-- The characters of a text inside its quotes. -/
def escapeChars (cs : List Char) : List Char := cs.flatMap escapeChar

def writeString (s : String) : List Char := '\x22' :: (escapeChars s.toList ++ ['\x22'])

def writeNat (n : Nat) : List Char := Nat.toDigits 10 n

def zeros (n : Nat) : List Char := List.replicate n '0'

/-- Digits are positional, with a place behind the point at least, while the exponent of the leading
digit is from -5 to 15; else the exponent is written with its sign. -/
def writeDigits (d : Digits) : List Char :=
  let ds := writeNat d.digits
  let lead : Int := d.exponent + ds.length - 1
  if -5 ≤ lead && lead ≤ 15 then
    if 0 ≤ d.exponent then ds ++ zeros d.exponent.toNat ++ ['.', '0']
    else if 0 ≤ lead then ds.take (lead.toNat + 1) ++ '.' :: ds.drop (lead.toNat + 1)
    else '0' :: '.' :: zeros (-lead - 1).toNat ++ ds
  else
    let sign := if 0 ≤ lead then '+' else '-'
    let fraction := if ds.length ≤ 1 then [] else '.' :: ds.drop 1
    ds.take 1 ++ fraction ++ 'e' :: sign :: writeNat lead.natAbs

def writeReal (x : Binary64) : List Char :=
  (if x.negative then ['-'] else []) ++ writeDigits x.shortest

def Number.write : Number → List Char
  | .natural n => writeNat n.toNat
  | .negSucc n => '-' :: writeNat (n.toNat + 1)
  | .real x => writeReal x

namespace Value

mutual

def write : Value → List Char
  | .null => "null".toList
  | .bool true => "true".toList
  | .bool false => "false".toList
  | .number n => n.write
  | .string s => writeString s
  | .array items => '[' :: (writeItems items ++ [']'])
  | .object members => '\x7b' :: (writeMembers members ++ ['\x7d'])

def writeItems : List Value → List Char
  | [] => []
  | [v] => write v
  | v :: w :: rest => write v ++ ',' :: writeItems (w :: rest)

def writeMembers : List (String × Value) → List Char
  | [] => []
  | [(n, v)] => writeString n ++ ':' :: write v
  | (n, v) :: m :: rest => writeString n ++ ':' :: write v ++ ',' :: writeMembers (m :: rest)

end

/-- The text of a value. -/
def print (v : Value) : String := String.ofList v.write

end Value
end SchemaBoard.Json
