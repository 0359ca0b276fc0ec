import SchemaBoard.Json.Reader

/-!
# Passing over values

A value that nobody asks for is passed over without being read, to any depth. What is open around
the place reached is a list of brackets.
-/
namespace SchemaBoard.Json

inductive Bracket where
  | list | object
  deriving DecidableEq, Repr

def Bracket.closing : Bracket → Char
  | .list => ']'
  | .object => '\x7d'

def Bracket.noComma : Bracket → Cause
  | .list => .noListComma
  | .object => .noObjectComma

def Bracket.cut : Bracket → Cause
  | .list => .endInList
  | .object => .endInObject

/-- Pass the start of a value: a whole scalar, or an opening bracket. -/
def passStart (c : Cursor) : Except Fault (Option Bracket × Cursor) :=
  let c := c.skip
  match c.rest with
  | [] => .error (c.next .endInValue)
  | d :: _ =>
    if d = 'n' then (readLiteral "ull".toList (c.advance 1)).map (none, ·)
    else if d = 't' then (readLiteral "rue".toList (c.advance 1)).map (none, ·)
    else if d = 'f' then (readLiteral "alse".toList (c.advance 1)).map (none, ·)
    else if d = '-' then (passNumber (c.advance 1)).map (none, ·)
    else if d.isDigit then (passNumber c).map (none, ·)
    else if d = '\x22' then (passQuotation (c.advance 1)).map (none, ·)
    else if d = '[' then .ok (some .list, c.advance 1)
    else if d = '\x7b' then .ok (some .object, c.advance 1)
    else .error (c.next .noValue)

/-- Pass closing brackets up to a comma or the start of a first part; no bracket is left open when
the value ends. -/
def passEnd : List Bracket → Bool → Cursor → Except Fault (List Bracket × Cursor)
  | [], _, c => .ok ([], c)
  | b :: outer, comma, c =>
    let c := c.skip
    match c.rest with
    | [] => .error (c.next b.cut)
    | d :: _ =>
      if d = ',' && comma then .ok (b :: outer, c.advance 1)
      else if d = b.closing then passEnd outer true (c.advance 1)
      else if comma then .error (c.next b.noComma)
      else .ok (b :: outer, c)

/-- Pass the name of a member and its colon. -/
def passKey (c : Cursor) : Except Fault Cursor :=
  let c := c.skip
  match c.rest with
  | [] => .error (c.next .endInObject)
  | d :: _ => do
    if d = '\x22' then
      let c ← passQuotation (c.advance 1)
      readColon c
    else .error (c.next .keyNotString)

/-- Pass values until no bracket is open; no more than `fuel` of them. -/
def passValues : Nat → List Bracket → Cursor → Except Fault Cursor
  | 0, _, c => .error (c.here .endInValue)
  | fuel + 1, outer, c => do
    let (start, c) ← passStart c
    let (opened, c) ←
      match start with
      | none => passEnd outer true c
      | some b => passEnd (b :: outer) false c
    match opened with
    | [] => return c
    | .list :: _ => passValues fuel opened c
    | .object :: _ =>
      let c ← passKey c
      passValues fuel opened c

/-- Pass over one value. -/
def passValue (c : Cursor) : Except Fault Cursor := passValues (c.rest.length + 1) [] c

end SchemaBoard.Json
