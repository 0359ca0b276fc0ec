import SchemaBoard.Json.Format
import SchemaBoard.Json.Skip

/-!
# From a text to a value of a form

A value of a form is read straight from the text: fields of other names are passed over, and a fault
is told at the place where it shows. A mismatch that shows only at the end of a record is told
behind the record's end, as far as the end can be read.
-/
namespace SchemaBoard.Json

/-- Read a scalar of the wrong form, or see that a list or an object begins. -/
def readWrong (expected : String) (c : Cursor) : Fault :=
  if startsWith (· = '[') c then c.mismatch (.form .list expected)
  else if startsWith (· = '\x7b') c then c.mismatch (.form .object expected)
  else
    match readScalar c with
    | .error f => f
    | .ok (v, c) => c.mismatch (.form (.ofValue v) expected)

def readCount (c : Cursor) : Except Fault (UInt64 × Cursor) :=
  let c := c.skip
  let number? : Option (Except Fault (Number × Cursor)) :=
    if startsWith (· = '-') c then some (readNumber true (c.advance 1))
    else if startsWith Char.isDigit c then some (readNumber false c)
    else none
  match number? with
  | none => .error (readWrong Format.count.expected c)
  | some (.error f) => .error f
  | some (.ok (n, c)) =>
    match n.toCount with
    | .ok v => .ok (v, c)
    | .error m => .error (c.mismatch m)

def readFlag (c : Cursor) : Except Fault (Bool × Cursor) :=
  let c := c.skip
  if startsWith (· = 't') c then (readLiteral "rue".toList (c.advance 1)).map (true, ·)
  else if startsWith (· = 'f') c then (readLiteral "alse".toList (c.advance 1)).map (false, ·)
  else .error (readWrong Format.flag.expected c)

def readText (expected : String) (c : Cursor) : Except Fault (String × Cursor) :=
  let c := c.skip
  if startsWith (· = '\x22') c then readQuotation (c.advance 1)
  else .error (readWrong expected c)

/-- What came of a member of an object: its name is no field, the field was read before, or its
value was read. -/
inductive Member (σ : Type) where
  | other
  | repeated (name : String)
  | read (r : Except Fault (σ × Cursor))

def Member.map (f : σ → τ) : Member σ → Member τ
  | .other => .other
  | .repeated name => .repeated name
  | .read r => .read (r.map fun (s, c) => (f s, c))

/-- The members of a record up to its closing brace; no more than `fuel` of them. -/
def readSlots (readMember : String → σ → Cursor → Member σ) :
    Nat → Bool → σ → Cursor → Except Fault (Except Mismatch σ × Cursor)
  | 0, _, _, c => .error (c.here .endInObject)
  | fuel + 1, first, slots, c => do
    match ← nextKey first c with
    | none => return (.ok slots, c)
    | some (name, c) =>
      match readMember name slots c with
      | .repeated n => return (.error (.repeated n), c)
      | .read r =>
        let (slots, c) ← r
        readSlots readMember fuel false slots c
      | .other =>
        let c ← readColon c
        let c ← passValue c
        readSlots readMember fuel false slots c

/-- Close a record; a mismatch is told where the end leaves off. -/
def closeRecord (close : Cursor → Cursor × Option Fault) (v : Except Mismatch α) (c : Cursor) :
    Except Fault (α × Cursor) :=
  match v with
  | .ok v => closed close v c
  | .error m => .error ((close c).1.mismatch m)

mutual

def Format.read : (form : Format) → Reader form.Carrier
  | .count, c => readCount c
  | .flag, c => readFlag c
  | .text, c => readText Format.text.expected c
  | .list item, c =>
    let c := c.skip
    if startsWith (· = '[') c then readList (Format.read item) c
    else .error (readWrong (Format.list item).expected c)
  | .record name fields, c =>
    let c := c.skip
    if startsWith (· = '[') c then do
      let (v, c) ← Fields.readList fields (fields.expected name) 0 true (c.advance 1)
      closeRecord closeList v c
    else if startsWith (· = '\x7b') c then do
      let (slots, c) ←
        readSlots (Fields.readMember fields) c.rest.length true fields.emptySlots (c.advance 1)
      closeRecord closeObject (slots.bind fields.complete) c
    else .error (readWrong (Format.record name fields).expected c)

/-- Read the value of a member, from behind its name, into the slot of its field. -/
def Fields.readMember : (fields : Fields) → String → fields.Slots → Cursor → Member fields.Slots
  | .nil, _, _, _ => .other
  | .cons name form rest, n, (slot, slots), c =>
    if n = name then
      match slot with
      | some _ => .repeated name
      | none => .read do
        let c ← readColon c
        let (v, c) ← Format.read form c
        return ((some v, slots), c)
    else (Fields.readMember rest n slots c).map (slot, ·)

/-- Read the fields of a record that is written as a list. -/
def Fields.readList : (fields : Fields) → String → Nat → Bool → Cursor →
    Except Fault (Except Mismatch fields.Carrier × Cursor)
  | .nil, _, _, _, c => .ok (.ok (), c)
  | .cons _ form rest, expected, n, first, c => do
    match ← nextItem first c with
    | none => return (.error (.length n expected), c)
    | some c =>
      let (v, c) ← Format.read form c
      let (vs, c) ← Fields.readList rest expected (n + 1) false c
      return (vs.map (v, ·), c)

end

/-- Read a whole text as a value of a form. -/
def Format.parse (form : Format) (s : String) : Except Fault form.Carrier :=
  readAll form.read s

/-- A name out of a few, written as a text or as an object whose one member is null. -/
def readVariant (names : List String) (c : Cursor) : Except Fault (String × Cursor) :=
  let readName (expected : String) (c : Cursor) : Except Fault (String × Cursor) := do
    let (s, c) ← readText expected c
    if names.contains s then return (s, c) else .error (c.mismatch (.variant s names))
  let c := c.skip
  if startsWith (· = '\x7b') c then do
    let (s, c) ← readName "variant identifier" (c.advance 1)
    let c := (← readColon c).skip
    if !startsWith (· = 'n') c then .error (readWrong "unit" c)
    else
      let c := (← readLiteral "ull".toList (c.advance 1)).skip
      if startsWith (· = '\x7d') c then return (s, c.advance 1)
      else .error (c.here (if c.rest.isEmpty then .endInObject else .noValue))
  else if startsWith (· = '\x22') c then readName "variant identifier" c
  else .error (c.next (if c.rest.isEmpty then .endInValue else .noValue))

end SchemaBoard.Json
