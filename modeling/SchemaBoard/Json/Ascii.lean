import SchemaBoard.Json.Printer

/-!
# JSON in ASCII

A value written with printable ASCII characters alone: every other character stands in a string, and is
written there as one or two units of sixteen bits, each by four digits.
-/
namespace SchemaBoard.Json

/-- A unit of sixteen bits by its digits. -/
def writeUnit (n : Nat) : List Char :=
  '\\' :: 'u' :: [n / 4096, n / 256 % 16, n / 16 % 16, n % 16].map hexDigit

/-- The units of a character: one, or a pair of surrogates. -/
def units (c : Char) : List Nat :=
  if c.toNat < 0x10000 then [c.toNat]
  else [0xd800 + (c.toNat - 0x10000) / 1024, 0xdc00 + (c.toNat - 0x10000) % 1024]

def isPrintable (c : Char) : Bool := 32 ≤ c.toNat && c.toNat < 127

def asciiChar (c : Char) : List Char := if isPrintable c then [c] else (units c).flatMap writeUnit

def Value.printAscii (v : Value) : String := String.ofList (v.write.flatMap asciiChar)

end SchemaBoard.Json
