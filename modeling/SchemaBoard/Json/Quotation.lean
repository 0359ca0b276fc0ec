import SchemaBoard.Json.Cursor

/-!
# Reading strings

A string is read from behind its opening quote. Characters beyond the first plane are written as two
escapes, neither of which stands alone.
-/
namespace SchemaBoard.Json

def hexValue? (c : Char) : Option Nat :=
  if c.isDigit then some (c.toNat - 48)
  else if 'a' ≤ c && c ≤ 'f' then some (c.toNat - 87)
  else if 'A' ≤ c && c ≤ 'F' then some (c.toNat - 55)
  else none

/-- The number that four hexadecimal digits write. -/
def hexNumber? (a b c d : Char) : Option Nat := do
  let a ← hexValue? a
  let b ← hexValue? b
  let c ← hexValue? c
  let d ← hexValue? d
  return ((a * 16 + b) * 16 + c) * 16 + d

/-- Four hexadecimal digits; four bytes are taken in any case. -/
def readHex (c : Cursor) : Except Fault (Nat × Cursor) :=
  let good? : Option Nat :=
    match c.rest with
    | x :: y :: z :: w :: _ => hexNumber? x y z w
    | _ => none
  match good? with
  | some n => .ok (n, c.advance 4)
  | none =>
    match c.position.afterBytes 4 c.rest with
    | some p => .error ⟨.syntactic .badEscape, p⟩
    | none => .error ⟨.syntactic .endInString, c.position.afterAll c.rest⟩

def isTrailing (n : Nat) : Bool := 0xdc00 ≤ n && n ≤ 0xdfff

def isLeading (n : Nat) : Bool := 0xd800 ≤ n && n ≤ 0xdbff

/-- The next character, which is to be `d`, inside an escape of two parts. -/
def expectPart (d : Char) (c : Cursor) : Except Fault Cursor :=
  match c.rest with
  | [] => .error (c.here .endInString)
  | e :: _ => if e = d then .ok (c.advance 1) else .error (c.next .cutSurrogate)

/-- A character by its number, from behind `\u`. -/
def readCodePoint (c : Cursor) : Except Fault (Char × Cursor) := do
  let (n, c) ← readHex c
  if isTrailing n then .error (c.here .loneSurrogate)
  else if isLeading n then
    let c ← expectPart '\\' c
    let c ← expectPart 'u' c
    let (m, c) ← readHex c
    if isTrailing m then
      return (Char.ofNat ((n - 0xd800) * 0x400 + (m - 0xdc00) + 0x10000), c)
    else .error (c.here .loneSurrogate)
  else return (Char.ofNat n, c)

def shortEscape? : Char → Option Char
  | '\x22' => some '\x22'
  | '\\' => some '\\'
  | '/' => some '/'
  | 'b' => some '\x08'
  | 'f' => some '\x0c'
  | 'n' => some '\n'
  | 'r' => some '\r'
  | 't' => some '\t'
  | _ => none

/-- The character of an escape, from behind its backslash. -/
def readEscape (c : Cursor) : Except Fault (Char × Cursor) :=
  match c.rest with
  | [] => .error (c.here .endInString)
  | d :: _ =>
    match shortEscape? d with
    | some e => .ok (e, c.advance 1)
    | none => if d = 'u' then readCodePoint (c.advance 1) else .error (c.next .badEscape)

/-- The characters up to the closing quote, which is taken; no more than `fuel` of them. -/
def readChars : Nat → List Char → Cursor → Except Fault (String × Cursor)
  | 0, _, c => .error (c.here .endInString)
  | fuel + 1, found, c =>
    match c.rest with
    | [] => .error (c.here .endInString)
    | d :: r =>
      if d = '\x22' then .ok (String.ofList found.reverse, c.advance 1)
      else if d = '\\' then do
        let (e, c) ← readEscape (c.advance 1)
        readChars fuel (e :: found) c
      else if d.toNat < 32 then .error (c.next .controlCharacter)
      else readChars fuel (d :: found) ⟨r, c.position.after d⟩

/-- A string from behind its opening quote. -/
def readQuotation (c : Cursor) : Except Fault (String × Cursor) :=
  readChars (c.rest.length + 1) [] c

/-- Pass an escape whose character is of no interest. -/
def passEscape (c : Cursor) : Except Fault Cursor :=
  match c.rest with
  | [] => .error (c.here .endInString)
  | d :: _ =>
    if (shortEscape? d).isSome then .ok (c.advance 1)
    else if d = 'u' then (readHex (c.advance 1)).map Prod.snd
    else .error (c.next .badEscape)

/-- Pass the characters up to the closing quote. -/
def passChars : Nat → Cursor → Except Fault Cursor
  | 0, c => .error (c.here .endInString)
  | fuel + 1, c =>
    match c.rest with
    | [] => .error (c.here .endInString)
    | d :: r =>
      if d = '\x22' then .ok (c.advance 1)
      else if d = '\\' then do
        let c ← passEscape (c.advance 1)
        passChars fuel c
      else if d.toNat < 32 then .error (c.here .controlCharacter)
      else passChars fuel ⟨r, c.position.after d⟩

/-- Pass a string from behind its opening quote. -/
def passQuotation (c : Cursor) : Except Fault Cursor := passChars (c.rest.length + 1) c

end SchemaBoard.Json
