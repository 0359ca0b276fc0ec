import SchemaBoard.Text.Charset

/-!
# Media types

A media type is a type and a subtype with parameters behind semicolons. The parameter that counts is
the one that names the encoding of a body; without a media type that can be read, or with a label of
no encoding, a body is UTF-8. The encodings that need a table come from outside.
-/
namespace SchemaBoard.Remote.MediaType

def isTokenChar (c : Char) : Bool := c.isAlphanum || "!#$%&'*+-.^_`|~".toList.contains c

def token (cs : List Char) : List Char := cs.takeWhile isTokenChar

/-- A value between quotes, from behind the first. -/
def quoted? (cs : List Char) : Option (List Char × List Char) :=
  match cs with
  | [] => none
  | c :: rest =>
    let value := c :: rest.takeWhile (· ≠ '\x22')
    match cs.drop value.length with
    | _ :: rest =>
      if value.all fun d => 31 < d.toNat && d.toNat ≠ 127 then some (value, rest) else none
    | [] => none

/-- The value of a parameter and what follows its semicolon. -/
def value? : List Char → Option (List Char × List Char)
  | '\x22' :: cs => do
    let (v, rest) ← quoted? cs
    match rest.dropWhile (· = ' ') with
    | [] => some (v, [])
    | ';' :: rest => some (v, rest)
    | _ => none
  | cs =>
    let v := token cs
    match cs.drop v.length with
    | [] => some (v, [])
    | ';' :: rest => if v.isEmpty then none else some (v, rest)
    | _ => none

/-- The parameters, read with a limit on their number. -/
def parameters? : Nat → List Char → Option (List (List Char × List Char))
  | 0, _ => none
  | n + 1, cs =>
    match cs.dropWhile (· = ' ') with
    | [] => some []
    | c :: cs =>
      let name := token (c :: cs)
      match (c :: cs).drop name.length with
      | '=' :: rest =>
        if name.isEmpty then none
        else do
          let (v, rest) ← value? rest
          let others ← parameters? n rest
          return (name, v) :: others
      | _ => none

/-- The parameters of a media type. -/
def parse? (s : String) : Option (List (List Char × List Char)) :=
  let cs := s.toList
  let type := token cs
  match cs.drop type.length with
  | '/' :: rest =>
    let subtype := token rest
    match rest.drop subtype.length with
    | [] => if type.isEmpty then none else some []
    | ';' :: rest =>
      if type.isEmpty || subtype.isEmpty then none else parameters? (rest.length + 1) rest
    | _ => none
  | _ => none

def isEncodingName (name : List Char) : Bool := name.map Char.toLower = "charset".toList

/-- The label of the encoding that a media type names. -/
def label? (s : String) : Option String :=
  (parse? s).bind fun ps => (ps.find? fun p => isEncodingName p.1).map fun p => String.ofList p.2

/-- The encoding of a body with such a media type, unless it needs a table or is none. -/
def charset? (s : Option String) : Option Text.Charset :=
  match s.bind label? with
  | some label => Text.Charset.ofLabel? label
  | none => some .utf8

/-- A body as text. The decoders that need a table are found by their plain labels; a mark at the
beginning of the body is obeyed before them. -/
def decode (decoder? : String → Option (List UInt8 → List Char)) (s : Option String)
    (bs : List UInt8) : String :=
  match charset? s with
  | some c => c.decode bs
  | none =>
    match Text.ofMark? bs, (s.bind label?).bind fun label => decoder? (Text.plainLabel label) with
    | none, some d => String.ofList (d bs)
    | _, _ => Text.Charset.utf8.decode bs

end SchemaBoard.Remote.MediaType
