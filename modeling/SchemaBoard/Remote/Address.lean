import SchemaBoard.Text.Charset

/-!
# Addresses

An address names a host, perhaps a number for it, a path and perhaps a query. It is read leniently:
strokes of either kind separate the steps of the path, steps of one or two dots are taken, and what
may not stand in a path is written as percent signs with two digits. A host may be a name, four
bytes or sixteen. How a name of other letters than those of ASCII goes on the wire takes tables,
which come from outside.
-/
namespace SchemaBoard.Remote

structure Address where
  scheme : String
  host : String
  /-- The number behind the host, unless it is the usual one of the scheme. -/
  portNumber : Option Nat
  path : String
  query : Option String
  deriving DecidableEq, Repr

namespace Address

def isStroke (c : Char) : Bool := c = '/' || c = '\\'

def hexDigit (n : Nat) : Char := (Nat.digitChar n).toUpper

def encodeByte (b : UInt8) : List Char :=
  ['%', hexDigit (b.toNat / 16), hexDigit (b.toNat % 16)]

def encodeChar (c : Char) : List Char := (String.singleton c).toUTF8.toList.flatMap encodeByte

/-- Whether a character is no printable ASCII. -/
def isOutside (c : Char) : Bool := c.toNat < 33 || 126 < c.toNat

def encodePath (cs : List Char) : List Char :=
  cs.flatMap fun c =>
    if isOutside c || "\"#<>?`\x7b\x7d".toList.contains c then encodeChar c else [c]

def encodeQuery (cs : List Char) : List Char :=
  cs.flatMap fun c => if isOutside c || "\"#<>'".toList.contains c then encodeChar c else [c]

def hexValue? (c : Char) : Option Nat :=
  if c.isDigit then some (c.toNat - 48)
  else if 'a' ≤ c ∧ c ≤ 'f' then some (c.toNat - 87)
  else if 'A' ≤ c ∧ c ≤ 'F' then some (c.toNat - 55)
  else none

/-- The bytes of a text, a percent sign with two digits being the byte that it stands for. -/
def percentBytes : List Char → List UInt8
  | '%' :: a :: b :: rest =>
    match hexValue? a, hexValue? b with
    | some m, some n => UInt8.ofNat (m * 16 + n) :: percentBytes rest
    | _, _ => 0x25 :: percentBytes (a :: b :: rest)
  | c :: rest => String.utf8EncodeChar c ++ percentBytes rest
  | [] => []

/-- The pieces between characters of a kind. -/
def splitAt (p : Char → Bool) : List Char → List (List Char)
  | [] => [[]]
  | c :: cs =>
    if p c then [] :: splitAt p cs
    else
      match splitAt p cs with
      | [] => [[c]]
      | q :: qs => (c :: q) :: qs

/-- Whether a step of a path is so many dots, each plain or encoded. -/
def isDots (n : Nat) (step : List Char) : Bool :=
  let rec dots : List Char → Option Nat
    | [] => some 0
    | '.' :: rest => (dots rest).map (· + 1)
    | '%' :: '2' :: e :: rest => if e.toLower = 'e' then (dots rest).map (· + 1) else none
    | _ => none
  dots step = some n

/-- Walk the steps of a path; `taken` holds those taken, the last one first. -/
def walk (taken : List (List Char)) : List (List Char) → List (List Char)
  | [] => taken.reverse
  | step :: rest =>
    let taken :=
      if isDots 2 step then if rest.isEmpty then [] :: taken.tail else taken.tail
      else if isDots 1 step then if rest.isEmpty then [] :: taken else taken
      else encodePath step :: taken
    walk taken rest

def pathOf (cs : List Char) : String :=
  let cs := if cs.head?.any isStroke then cs.tail else cs
  String.ofList ((walk [] (splitAt isStroke cs)).flatMap ('/' :: ·))

/-- Characters that no host name holds. -/
def isForbidden (c : Char) : Bool :=
  c.toNat < 33 || c.toNat = 127 || "#/:<>?@[\\]^|%".toList.contains c

/-- A number of an address of four bytes: decimal, octal or hexadecimal. -/
def number? (cs : List Char) : Option Nat :=
  let read (base : Nat) (ds : List Char) : Option Nat :=
    let step (n : Nat) (c : Char) : Option Nat :=
      (hexValue? c).bind fun d => if d < base then some (n * base + d) else none
    ds.foldlM step 0
  match cs with
  | [] => none
  | '0' :: x :: ds => if x.toLower = 'x' then read 16 ds else read 8 (x :: ds)
  | ds => read 10 ds

/-- The pieces of a host name, without an empty one at the end. -/
def labels (cs : List Char) : List (List Char) :=
  let ls := splitAt (· = '.') cs
  if 1 < ls.length ∧ ls.getLast? = some [] then ls.dropLast else ls

def endsInNumber (cs : List Char) : Bool :=
  (labels cs).getLast?.any fun l => !l.isEmpty && (l.all Char.isDigit || (number? l).isSome)

/-- The number that is left of a name after some bytes of it: `room` is how many there are, and the
last number may fill it all. -/
def fill? : Nat → List Nat → Option Nat
  | _, [] => none
  | room, [n] => if n < room then some n else none
  | room, n :: ns =>
    if n < 256 then (fill? (room / 256) ns).map (n * (room / 256) + ·) else none

/-- Four bytes out of at most four numbers. -/
def quad? (ns : List Nat) : Option Nat := if ns.length ≤ 4 then fill? 0x100000000 ns else none

def printQuad (n : Nat) : String :=
  ".".intercalate ([n / 0x1000000, n / 0x10000 % 256, n / 256 % 256, n % 256].map toString)

/-- A group of at most four hexadecimal digits. -/
def group? (cs : List Char) : Option Nat :=
  if 0 < cs.length ∧ cs.length ≤ 4 then
    cs.foldlM (fun n c => (hexValue? c).map (n * 16 + ·)) 0
  else none

/-- A decimal byte, without zeros before it. -/
def byte? (cs : List Char) : Option Nat :=
  if cs.isEmpty || !cs.all Char.isDigit || (cs.head? = some '0' && cs ≠ ['0']) then none
  else
    let n := cs.foldl (fun n c => n * 10 + (c.toNat - 48)) 0
    if n < 256 then some n else none

/-- Groups one after another. The last two may be written as four bytes. -/
def groups? : List (List Char) → Option (List Nat)
  | [] => some []
  | [g] =>
    if g.contains '.' then
      match (splitAt (· = '.') g).mapM byte? with
      | some [a, b, c, d] => some [a * 256 + b, c * 256 + d]
      | _ => none
    else (group? g).map ([·])
  | g :: gs => do return (← group? g) :: (← groups? gs)

/-- The eight groups of an address of sixteen bytes. Two colons stand for as many zeros as are
missing. -/
def sixteen? (cs : List Char) : Option (List Nat) :=
  let side (gs : List (List Char)) := if gs = [[]] then [] else gs
  let gs := splitAt (· = ':') cs
  match gs.tail.dropLast.findIdx? (·.isEmpty) with
  | none => (groups? gs).bind fun ns => if ns.length = 8 then some ns else none
  | some i => do
    let front ← (side (gs.take (i + 1))).mapM group?
    let back ← groups? (side (gs.drop (i + 2)))
    let written := front.length + back.length
    if written < 8 then some (front ++ List.replicate (8 - written) 0 ++ back) else none

/-- Where the first of the longest rows of zeros begins, and how many there are. -/
def zeros (ns : List Nat) : Nat × Nat :=
  (List.range ns.length).foldl (fun longest i =>
    let n := ((ns.drop i).takeWhile (· = 0)).length
    if longest.2 < n then (i, n) else longest) (0, 0)

def printGroups (ns : List Nat) : String :=
  ":".intercalate (ns.map fun n => String.ofList (Nat.toDigits 16 n))

/-- An address of sixteen bytes in its shortest form. -/
def printSixteen (ns : List Nat) : String :=
  let (i, n) := zeros ns
  if n < 2 then printGroups ns
  else printGroups (ns.take i) ++ "::" ++ printGroups (ns.drop (i + n))

/-- Whether a name goes on the wire in small letters and is not in such a form already. -/
def isPlainName (cs : List Char) : Bool :=
  cs.all (·.toNat < 128) && (splitAt (· = '.') (cs.map Char.toLower)).all fun l =>
    !"xn--".toList.isPrefixOf l

def host? (wireName? : String → Option String) (cs : List Char) : Option String :=
  match cs with
  | [] => none
  | '[' :: rest =>
    if rest.getLast? = some ']' then
      (sixteen? rest.dropLast).map fun ns => "[" ++ printSixteen ns ++ "]"
    else none
  | cs => do
    let written := Text.decodeUtf8 none (percentBytes cs)
    let name ←
      if isPlainName written then some (written.map Char.toLower)
      else (wireName? (String.ofList written)).map String.toList
    if name.isEmpty || name.any isForbidden then none
    else if endsInNumber name then do
      let ns ← (labels name).mapM number?
      return printQuad (← quad? ns)
    else some (String.ofList name)

/-- The number that a scheme uses if none is named. -/
def usualNumber (scheme : String) : Nat := if scheme = "https" then 443 else 80

/-- A number behind a colon; none if it is missing or the usual one. -/
def portNumber? (scheme : String) : List Char → Option (Option Nat)
  | [] => some none
  | ':' :: ds =>
    if ds.all Char.isDigit then
      let n := ds.foldl (fun n c => n * 10 + (c.toNat - 48)) 0
      if 65535 < n then none
      else some (if ds.isEmpty || n = usualNumber scheme then none else some n)
    else none
  | _ => none

/-- The end of a host name: the first colon that is not between brackets. -/
def hostLength (cs : List Char) : Nat :=
  match cs with
  | '[' :: _ => cs.length - (cs.reverse.takeWhile (· ≠ ']')).length
  | _ => (cs.takeWhile (· ≠ ':')).length

def ofParts? (wireName? : String → Option String) (scheme : String) (cs : List Char) :
    Option Address := do
  let isEnd (c : Char) := isStroke c || c = '?' || c = '#'
  let cs := cs.dropWhile isStroke
  let authority := cs.takeWhile fun c => !isEnd c
  let rest := (cs.dropWhile fun c => !isEnd c).takeWhile (· ≠ '#')
  let server := (authority.reverse.takeWhile (· ≠ '@')).reverse
  let host ← host? wireName? (server.take (hostLength server))
  let portNumber ← portNumber? scheme (server.drop (hostLength server))
  let path := rest.takeWhile (· ≠ '?')
  let query :=
    match rest.drop path.length with
    | _ :: q => some (String.ofList (encodeQuery q))
    | [] => none
  return ⟨scheme, host, portNumber, pathOf path, query⟩

/-- Read an address of one of the two schemes of the web. -/
def parse? (wireName? : String → Option String) (s : String) : Option Address :=
  let isEdge (c : Char) := c.toNat ≤ 32
  let cs := ((s.toList.dropWhile isEdge).reverse.dropWhile isEdge).reverse
  let cs := cs.filter fun c => c ≠ '\t' && c ≠ '\n' && c ≠ '\r'
  let scheme := String.ofList ((cs.takeWhile (· ≠ ':')).map Char.toLower)
  if scheme = "http" ∨ scheme = "https" then ofParts? wireName? scheme (cs.drop (scheme.length + 1))
  else none

/-- The path and the query, as a request names them. -/
def target (a : Address) : String := a.path ++ a.query.elim "" ("?" ++ ·)

def print (a : Address) : String :=
  a.scheme ++ "://" ++ a.host ++ a.portNumber.elim "" (fun n => ":" ++ toString n) ++ a.target

end Address
end SchemaBoard.Remote
