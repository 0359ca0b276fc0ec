import SchemaBoard.Json.Fault

/-!
# A place in a text

A `Cursor` is what is left of a text, with the place reached. Faults are found either at the place
reached or at the character that comes next; of that character one byte counts.
-/
namespace SchemaBoard.Json

namespace Position

def after (p : Position) (c : Char) : Position :=
  if c = '\n' then ⟨p.line + 1, 0⟩ else ⟨p.line, p.column + c.utf8Size⟩

/-- The place behind the first byte of a character. -/
def afterByte (p : Position) (c : Char) : Position :=
  if c = '\n' then ⟨p.line + 1, 0⟩ else ⟨p.line, p.column + 1⟩

def afterAll (p : Position) (cs : List Char) : Position := cs.foldl after p

/-- The place `n` bytes on, if the text has as many. -/
def afterBytes : Nat → List Char → Position → Option Position
  | 0, _, p => some p
  | _ + 1, [], _ => none
  | n + 1, c :: cs, p =>
    if c = '\n' then afterBytes n cs (p.after c)
    else if c.utf8Size ≤ n + 1 then afterBytes (n + 1 - c.utf8Size) cs (p.after c)
    else some ⟨p.line, p.column + n + 1⟩

end Position

structure Cursor where
  rest : List Char
  position : Position := {}

/-- A reader takes a value from the front of a text. -/
abbrev Reader (α : Type) := Cursor → Except Fault (α × Cursor)

namespace Cursor

def ofString (s : String) : Cursor := { rest := s.toList }

def isBlank (c : Char) : Bool := c = ' ' || c = '\n' || c = '\t' || c = '\r'

def skipBlanks : List Char → Position → Cursor
  | [], p => ⟨[], p⟩
  | c :: cs, p => if isBlank c then skipBlanks cs (p.after c) else ⟨c :: cs, p⟩

/-- Leave blanks out. -/
def skip (c : Cursor) : Cursor := skipBlanks c.rest c.position

/-- Pass `n` characters of one byte. -/
def advance (n : Nat) (c : Cursor) : Cursor :=
  ⟨c.rest.drop n, ⟨c.position.line, c.position.column + n⟩⟩

def here (cause : Cause) (c : Cursor) : Fault := ⟨.syntactic cause, c.position⟩

def next (cause : Cause) (c : Cursor) : Fault :=
  match c.rest with
  | [] => c.here cause
  | d :: _ => ⟨.syntactic cause, c.position.afterByte d⟩

def mismatch (m : Mismatch) (c : Cursor) : Fault := ⟨.mismatch m, c.position⟩

end Cursor

/-- The rest of a literal, whose first character was read. -/
def readLiteral : List Char → Cursor → Except Fault Cursor
  | [], c => .ok c
  | e :: es, c =>
    match c.rest with
    | [] => .error (c.here .endInValue)
    | d :: _ => if d = e then readLiteral es (c.advance 1) else .error (c.next .noLiteral)

end SchemaBoard.Json
