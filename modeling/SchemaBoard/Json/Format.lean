import SchemaBoard.Json.Fault

/-!
# Forms of values

A `Format` says what a value is to be: a count of 64 bits, a truth value, a text, a list of values
of one form, or a record of named fields. `Format.Carrier` is the type of the values of a form; a
record is carried by the tuple of its fields in the order of their declaration.
-/
namespace SchemaBoard.Json

mutual

inductive Format where
  | count
  | flag
  | text
  | list (item : Format)
  | record (name : String) (fields : Fields)

inductive Fields where
  | nil
  | cons (name : String) (form : Format) (rest : Fields)

end

mutual

@[reducible] def Format.Carrier : Format → Type
  | .count => UInt64
  | .flag => Bool
  | .text => String
  | .list item => List item.Carrier
  | .record _ fields => fields.Carrier

@[reducible] def Fields.Carrier : Fields → Type
  | .nil => Unit
  | .cons _ form rest => form.Carrier × rest.Carrier

end

namespace Fields

/-- The fields of a record read so far. -/
@[reducible] def Slots : Fields → Type
  | .nil => Unit
  | .cons _ form rest => Option form.Carrier × rest.Slots

def length : Fields → Nat
  | .nil => 0
  | .cons _ _ rest => rest.length + 1

def emptySlots : (fields : Fields) → fields.Slots
  | .nil => ()
  | .cons _ _ rest => (none, rest.emptySlots)

/-- The record, or the first field that is missing. -/
def complete : (fields : Fields) → fields.Slots → Except Mismatch fields.Carrier
  | .nil, _ => .ok ()
  | .cons name _ _, (none, _) => .error (.missing name)
  | .cons _ _ rest, (some v, slots) => (rest.complete slots).map (v, ·)

end Fields

/-- How a message names a form. -/
def Format.expected : Format → String
  | .count => "usize"
  | .flag => "a boolean"
  | .text => "a string"
  | .list _ => "a sequence"
  | .record name _ => "struct " ++ name

/-- How a message names a record that is written as a list. -/
def Fields.expected (name : String) (fields : Fields) : String :=
  "struct " ++ name ++ " with " ++ toString fields.length
    ++ (if fields.length = 1 then " element" else " elements")

/-- A count of 64 bits among numbers. -/
def Number.toCount : Number → Except Mismatch UInt64
  | .natural n => .ok n
  | .negSucc n => .error (.range (.number (.negSucc n)) Format.count.expected)
  | .real x => .error (.form (.number (.real x)) Format.count.expected)

mutual

/-- Write a value of a form. -/
def Format.toValue : (form : Format) → form.Carrier → Value
  | .count, n => .number (.natural n)
  | .flag, b => .bool b
  | .text, s => .string s
  | .list item, vs => .array (vs.map (item.toValue))
  | .record _ fields, v => .object (fields.toMembers v)

def Fields.toMembers : (fields : Fields) → fields.Carrier → List (String × Value)
  | .nil, _ => []
  | .cons name form rest, (v, vs) => (name, form.toValue v) :: rest.toMembers vs

end

end SchemaBoard.Json
