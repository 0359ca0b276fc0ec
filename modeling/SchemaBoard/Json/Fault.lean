import SchemaBoard.Json.Printer
import SchemaBoard.Text.Quoted

/-!
# What is wrong with a JSON text

A text may not be JSON (`Cause`), and a value may not be what was asked for (`Mismatch`). A fault in
a text has a place: a line, counted from one, and the number of bytes of that line up to the fault.
-/
namespace SchemaBoard.Json

inductive Cause where
  | endInValue | endInObject | endInList | endInString
  | noValue | noLiteral | noColon | noListComma | noObjectComma
  | trailingComma | trailing | keyNotString
  | badNumber | numberTooGreat
  | badEscape | cutSurrogate | loneSurrogate | controlCharacter
  | tooDeep
  deriving DecidableEq, Repr

def Cause.message : Cause → String
  | .endInValue => "EOF while parsing a value"
  | .endInObject => "EOF while parsing an object"
  | .endInList => "EOF while parsing a list"
  | .endInString => "EOF while parsing a string"
  | .noValue => "expected value"
  | .noLiteral => "expected ident"
  | .noColon => "expected `:`"
  | .noListComma => "expected `,` or `]`"
  | .noObjectComma => "expected `,` or `\x7d`"
  | .trailingComma => "trailing comma"
  | .trailing => "trailing characters"
  | .keyNotString => "key must be a string"
  | .badNumber => "invalid number"
  | .numberTooGreat => "number out of range"
  | .badEscape => "invalid escape"
  | .cutSurrogate => "unexpected end of hex escape"
  | .loneSurrogate => "lone leading surrogate in hex escape"
  | .controlCharacter => "control character (\\u0000-\\u001F) found while parsing a string"
  | .tooDeep => "recursion limit exceeded"

/-- What was found where something else was asked for. -/
inductive Found where
  | null
  | bool (b : Bool)
  | number (n : Number)
  | string (s : String)
  | list
  | object
  deriving DecidableEq, Repr

def Found.message : Found → String
  | .null => "null"
  | .bool b => "boolean `" ++ toString b ++ "`"
  | .number (.real x) => "floating point `" ++ String.ofList (writeReal x) ++ "`"
  | .number n => "integer `" ++ String.ofList n.write ++ "`"
  | .string s => "string " ++ Text.quoted s
  | .list => "sequence"
  | .object => "map"

def Found.ofValue : Value → Found
  | .null => .null
  | .bool b => .bool b
  | .number n => .number n
  | .string s => .string s
  | .array _ => .list
  | .object _ => .object

/-- Why a value is not of the form that was asked for. -/
inductive Mismatch where
  | form (found : Found) (expected : String)
  | range (found : Found) (expected : String)
  | length (n : Nat) (expected : String)
  | missing (name : String)
  | repeated (name : String)
  | variant (name : String) (expected : List String)
  deriving DecidableEq, Repr

/-- Alternatives, each between grave accents. -/
def alternatives (names : List String) : String :=
  ", ".intercalate (names.map fun n => "`" ++ n ++ "`")

def Mismatch.message : Mismatch → String
  | .form found expected => "invalid type: " ++ found.message ++ ", expected " ++ expected
  | .range found expected => "invalid value: " ++ found.message ++ ", expected " ++ expected
  | .length n expected => "invalid length " ++ toString n ++ ", expected " ++ expected
  | .missing name => "missing field `" ++ name ++ "`"
  | .repeated name => "duplicate field `" ++ name ++ "`"
  | .variant name expected =>
    "unknown variant `" ++ name ++ "`, expected one of " ++ alternatives expected

inductive Problem where
  | syntactic (cause : Cause)
  | mismatch (m : Mismatch)
  deriving DecidableEq, Repr

def Problem.message : Problem → String
  | .syntactic c => c.message
  | .mismatch m => m.message

structure Position where
  line : Nat := 1
  column : Nat := 0
  deriving DecidableEq, Repr

structure Fault where
  problem : Problem
  position : Position
  deriving DecidableEq, Repr

def Fault.message (f : Fault) : String :=
  f.problem.message ++ " at line " ++ toString f.position.line
    ++ " column " ++ toString f.position.column

end SchemaBoard.Json
