import SchemaBoard.Json.Format

/-!
# From a value to a value of a form

A record is an object with its fields, in any order and among others, or a list of exactly its
fields.
-/
namespace SchemaBoard.Json

/-- Convert the items of a list in order. -/
def convertItems (convert : Value → Except Mismatch α) : List Value → Except Mismatch (List α)
  | [] => .ok []
  | v :: rest => do
    let a ← convert v
    let as ← convertItems convert rest
    return a :: as

/-- Convert the members that are fields, in the order of the object. -/
def convertMembers (put : String → Value → σ → Except Mismatch σ) :
    List (String × Value) → σ → Except Mismatch σ
  | [], slots => .ok slots
  | (n, v) :: rest, slots => do
    let slots ← put n v slots
    convertMembers put rest slots

mutual

def Format.ofValue : (form : Format) → Value → Except Mismatch form.Carrier
  | .count, .number n => n.toCount
  | .flag, .bool b => .ok b
  | .text, .string s => .ok s
  | .list item, .array vs => convertItems (Format.ofValue item) vs
  | .record _ fields, .object members => do
    let slots ← convertMembers (Fields.put fields) members fields.emptySlots
    fields.complete slots
  | .record name fields, .array vs => do
    let (v, rest) ← Fields.ofList fields (fields.expected name) 0 vs
    if rest.isEmpty then return v
    else .error (.length vs.length "fewer elements in array")
  | form, v => .error (.form (.ofValue v) form.expected)

/-- Convert a member into the slot of its field; members of other names are left out. -/
def Fields.put : (fields : Fields) → String → Value → fields.Slots → Except Mismatch fields.Slots
  | .nil, _, _, slots => .ok slots
  | .cons name form rest, n, v, (slot, slots) =>
    if n = name then
      match slot with
      | some _ => .error (.repeated name)
      | none => do
        let a ← Format.ofValue form v
        return (some a, slots)
    else do
      let slots ← Fields.put rest n v slots
      return (slot, slots)

/-- Convert the fields of a record from the front of a list. -/
def Fields.ofList : (fields : Fields) → String → Nat → List Value →
    Except Mismatch (fields.Carrier × List Value)
  | .nil, _, _, vs => .ok ((), vs)
  | .cons _ _ _, expected, n, [] => .error (.length n expected)
  | .cons _ form rest, expected, n, v :: vs => do
    let a ← Format.ofValue form v
    let (as, vs) ← Fields.ofList rest expected (n + 1) vs
    return ((a, as), vs)

end

end SchemaBoard.Json
