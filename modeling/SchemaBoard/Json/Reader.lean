import SchemaBoard.Json.Numeral
import SchemaBoard.Json.Quotation

/-!
# Reading values

`Value.parse` reads a whole text as one value. Lists and objects are read by loops that take the
reader of their parts, so that readers for values of a known form share them. Values inside one
another are read to a fixed depth.
-/
namespace SchemaBoard.Json

/-- The next item of a list: where it begins, or `none` before the closing bracket. -/
def nextItem (first : Bool) (c : Cursor) : Except Fault (Option Cursor) :=
  let c := c.skip
  match c.rest with
  | [] => .error (c.next .endInList)
  | d :: _ =>
    if d = ']' then .ok none
    else if first then .ok (some c)
    else if d = ',' then
      let c := (c.advance 1).skip
      match c.rest with
      | [] => .error (c.next .endInValue)
      | d :: _ => if d = ']' then .error (c.next .trailingComma) else .ok (some c)
    else .error (c.next .noListComma)

/-- The name of the next member of an object, or `none` before the closing brace. -/
def nextKey (first : Bool) (c : Cursor) : Except Fault (Option (String × Cursor)) :=
  let c := c.skip
  match c.rest with
  | [] => .error (c.next .endInObject)
  | d :: _ =>
    if d = '\x7d' then .ok none
    else if first then
      if d = '\x22' then (readQuotation (c.advance 1)).map some
      else .error (c.next .keyNotString)
    else if d = ',' then
      let c := (c.advance 1).skip
      match c.rest with
      | [] => .error (c.next .endInValue)
      | d :: _ =>
        if d = '\x22' then (readQuotation (c.advance 1)).map some
        else .error (c.next (if d = '\x7d' then .trailingComma else .keyNotString))
    else .error (c.next .noObjectComma)

def readColon (c : Cursor) : Except Fault Cursor :=
  let c := c.skip
  match c.rest with
  | [] => .error (c.next .endInObject)
  | d :: _ => if d = ':' then .ok (c.advance 1) else .error (c.next .noColon)

/-- The end of a list, with the place reached even where it is at fault. -/
def closeList (c : Cursor) : Cursor × Option Fault :=
  let c := c.skip
  match c.rest with
  | [] => (c, some (c.next .endInList))
  | d :: _ =>
    if d = ']' then (c.advance 1, none)
    else if d = ',' then
      let c := (c.advance 1).skip
      (c, some (c.next (if c.rest.head? = some ']' then .trailingComma else .trailing)))
    else (c, some (c.next .trailing))

/-- The end of an object, with the place reached even where it is at fault. -/
def closeObject (c : Cursor) : Cursor × Option Fault :=
  let c := c.skip
  match c.rest with
  | [] => (c, some (c.next .endInObject))
  | d :: _ =>
    if d = '\x7d' then (c.advance 1, none)
    else (c, some (c.next (if d = ',' then .trailingComma else .trailing)))

/-- Close what was read, or give the fault of its end. -/
def closed (close : Cursor → Cursor × Option Fault) (v : α) (c : Cursor) :
    Except Fault (α × Cursor) :=
  match close c with
  | (c, none) => .ok (v, c)
  | (_, some f) => .error f

/-- The items of a list up to its closing bracket; no more than `fuel` of them. -/
def readItems (read : Reader α) : Nat → Bool → List α → Cursor → Except Fault (List α × Cursor)
  | 0, _, _, c => .error (c.here .endInList)
  | fuel + 1, first, found, c => do
    match ← nextItem first c with
    | none => return (found.reverse, c)
    | some c =>
      let (v, c) ← read c
      readItems read fuel false (v :: found) c

/-- A list from its bracket on. -/
def readList (read : Reader α) (c : Cursor) : Except Fault (List α × Cursor) := do
  let (items, c) ← readItems read c.rest.length true [] (c.advance 1)
  closed closeList items c

/-- The members of an object up to its closing brace. -/
def readMembers (read : Reader Value) :
    Nat → Bool → List (String × Value) → Cursor → Except Fault (List (String × Value) × Cursor)
  | 0, _, _, c => .error (c.here .endInObject)
  | fuel + 1, first, found, c => do
    match ← nextKey first c with
    | none => return (found, c)
    | some (name, c) =>
      let c ← readColon c
      let (v, c) ← read c
      readMembers read fuel false (Keyed.put name v found) c

def readObject (read : Reader Value) (c : Cursor) :
    Except Fault (List (String × Value) × Cursor) := do
  let (members, c) ← readMembers read c.rest.length true [] (c.advance 1)
  closed closeObject members c

/-- A value that is neither a list nor an object. -/
def readScalar (c : Cursor) : Except Fault (Value × Cursor) :=
  match c.rest with
  | [] => .error (c.next .endInValue)
  | d :: _ =>
    if d = 'n' then (readLiteral "ull".toList (c.advance 1)).map (Value.null, ·)
    else if d = 't' then (readLiteral "rue".toList (c.advance 1)).map (Value.bool true, ·)
    else if d = 'f' then (readLiteral "alse".toList (c.advance 1)).map (Value.bool false, ·)
    else if d = '-' then
      (readNumber true (c.advance 1)).map fun (n, c) => (Value.number n, c)
    else if d.isDigit then (readNumber false c).map fun (n, c) => (Value.number n, c)
    else if d = '\x22' then
      (readQuotation (c.advance 1)).map fun (s, c) => (Value.string s, c)
    else .error (c.next .noValue)

/-- A value in which at most `depth` lists and objects are inside one another. -/
def readValue : Nat → Reader Value
  | 0, c =>
    let c := c.skip
    if startsWith (fun d => d = '[' || d = '\x7b') c then .error (c.next .tooDeep)
    else readScalar c
  | depth + 1, c =>
    let c := c.skip
    if startsWith (· = '[') c then
      (readList (readValue depth) c).map fun (items, c) => (Value.array items, c)
    else if startsWith (· = '\x7b') c then
      (readObject (readValue depth) c).map fun (members, c) => (Value.object members, c)
    else readScalar c

def greatestDepth : Nat := 127

/-- Nothing but blanks may follow. -/
def finish (v : α) (c : Cursor) : Except Fault α :=
  let c := c.skip
  if c.rest.isEmpty then .ok v else .error (c.next .trailing)

/-- Read a whole text with one reader. -/
def readAll (read : Reader α) (s : String) : Except Fault α := do
  let (v, c) ← read (Cursor.ofString s)
  finish v c

/-- The value of a text. -/
def Value.parse (s : String) : Except Fault Value := readAll (readValue greatestDepth) s

end SchemaBoard.Json
