import SchemaBoard.Text.Blank

/-!
# Characters from bytes

Bytes become characters by an encoding. What is malformed becomes the replacement character, and
decoding goes on with the byte that broke the sequence. A mark at the beginning that tells the
encoding is obeyed and dropped. Of the encodings of the web these are the three that need no table
of more than a few lines.
-/
namespace SchemaBoard.Text

inductive Charset where
  | utf8
  | utf16 (bigEndian : Bool)
  | windows1252
  deriving DecidableEq, Repr

def replacement : Char := '\ufffd'

/-- A sequence that has begun: its value so far, the number of bytes to come, and the bounds of the
next. -/
structure Sequence where
  value : Nat
  left : Nat
  low : Nat
  high : Nat

/-- The first byte of a character: its whole, its beginning, or nothing of the kind. -/
def utf8Lead (n : Nat) : List Char × Option Sequence :=
  if n < 0x80 then ([Char.ofNat n], none)
  else if 0xc2 ≤ n ∧ n ≤ 0xdf then ([], some ⟨n - 0xc0, 1, 0x80, 0xbf⟩)
  else if 0xe0 ≤ n ∧ n ≤ 0xef then
    ([], some ⟨n - 0xe0, 2, if n = 0xe0 then 0xa0 else 0x80, if n = 0xed then 0x9f else 0xbf⟩)
  else if 0xf0 ≤ n ∧ n ≤ 0xf4 then
    ([], some ⟨n - 0xf0, 3, if n = 0xf0 then 0x90 else 0x80, if n = 0xf4 then 0x8f else 0xbf⟩)
  else ([replacement], none)

def utf8Step (s : Option Sequence) (n : Nat) : List Char × Option Sequence :=
  match s with
  | none => utf8Lead n
  | some s =>
    if s.low ≤ n ∧ n ≤ s.high then
      let value := s.value * 64 + (n - 0x80)
      if s.left = 1 then ([Char.ofNat value], none) else ([], some ⟨value, s.left - 1, 0x80, 0xbf⟩)
    else
      let (cs, t) := utf8Lead n
      (replacement :: cs, t)

def decodeUtf8 : Option Sequence → List UInt8 → List Char
  | s, [] => if s.isSome then [replacement] else []
  | s, b :: rest => (utf8Step s b.toNat).1 ++ decodeUtf8 (utf8Step s b.toNat).2 rest

/-- A unit of sixteen bits after the first half of a pair, if one has come. -/
def utf16Step (half : Option Nat) (n : Nat) : List Char × Option Nat :=
  match half with
  | none =>
    if 0xd800 ≤ n ∧ n ≤ 0xdbff then ([], some n)
    else if 0xdc00 ≤ n ∧ n ≤ 0xdfff then ([replacement], none)
    else ([Char.ofNat n], none)
  | some m =>
    if 0xdc00 ≤ n ∧ n ≤ 0xdfff then
      ([Char.ofNat (0x10000 + (m - 0xd800) * 1024 + (n - 0xdc00))], none)
    else if 0xd800 ≤ n ∧ n ≤ 0xdbff then ([replacement], some n)
    else ([replacement, Char.ofNat n], none)

def decodeUtf16 (bigEndian : Bool) : Option Nat → List UInt8 → List Char
  | half, a :: b :: rest =>
    let n := if bigEndian then a.toNat * 256 + b.toNat else b.toNat * 256 + a.toNat
    (utf16Step half n).1 ++ decodeUtf16 bigEndian (utf16Step half n).2 rest
  | _, [_] => [replacement]
  | half, [] => if half.isSome then [replacement] else []

/-- The characters of the bytes from 0x80 to 0x9f. -/
def upperControls : List Nat :=
  [0x20ac, 0x81, 0x201a, 0x192, 0x201e, 0x2026, 0x2020, 0x2021, 0x2c6, 0x2030, 0x160, 0x2039, 0x152,
    0x8d, 0x17d, 0x8f, 0x90, 0x2018, 0x2019, 0x201c, 0x201d, 0x2022, 0x2013, 0x2014, 0x2dc, 0x2122,
    0x161, 0x203a, 0x153, 0x9d, 0x17e, 0x178]

def windowsChar (b : UInt8) : Char :=
  let n := b.toNat
  if 0x80 ≤ n ∧ n ≤ 0x9f then Char.ofNat (upperControls.getD (n - 0x80) n) else Char.ofNat n

def utf8Labels : List String :=
  ["unicode-1-1-utf-8", "unicode11utf8", "unicode20utf8", "utf-8", "utf8", "x-unicode20utf8"]

def littleEndianLabels : List String :=
  ["csunicode", "iso-10646-ucs-2", "ucs-2", "unicode", "unicodefeff", "utf-16", "utf-16le"]

def bigEndianLabels : List String := ["unicodefffe", "utf-16be"]

def windowsLabels : List String :=
  ["ansi_x3.4-1968", "ascii", "cp1252", "cp819", "csisolatin1", "ibm819", "iso-8859-1",
    "iso-ir-100", "iso8859-1", "iso88591", "iso_8859-1", "iso_8859-1:1987", "l1", "latin1",
    "us-ascii", "windows-1252", "x-cp1252"]

def isLabelBlank (c : Char) : Bool := c = ' ' || c = '\t' || c = '\n' || c = '\x0c' || c = '\r'

/-- A label without the white space around it, in small letters. -/
def plainLabel (label : String) : String :=
  let cs := dropEndWhile isLabelBlank (label.toList.dropWhile isLabelBlank)
  String.ofList (cs.map Char.toLower)

/-- The encoding of a label, if it is one of the three. -/
def Charset.ofLabel? (label : String) : Option Charset :=
  let l := plainLabel label
  if utf8Labels.contains l then some .utf8
  else if littleEndianLabels.contains l then some (.utf16 false)
  else if bigEndianLabels.contains l then some (.utf16 true)
  else if windowsLabels.contains l then some .windows1252
  else none

/-- The encoding that bytes tell of themselves, and the bytes behind the mark. -/
def ofMark? : List UInt8 → Option (Charset × List UInt8)
  | 0xef :: 0xbb :: 0xbf :: rest => some (.utf8, rest)
  | 0xff :: 0xfe :: rest => some (.utf16 false, rest)
  | 0xfe :: 0xff :: rest => some (.utf16 true, rest)
  | _ => none

def Charset.decodeAll : Charset → List UInt8 → List Char
  | .utf8, bs => decodeUtf8 none bs
  | .utf16 bigEndian, bs => decodeUtf16 bigEndian none bs
  | .windows1252, bs => bs.map windowsChar

/-- Decode bytes, by their own mark if they have one. -/
def Charset.decode (c : Charset) (bs : List UInt8) : String :=
  match ofMark? bs with
  | some (d, rest) => String.ofList (d.decodeAll rest)
  | none => String.ofList (c.decodeAll bs)

end SchemaBoard.Text
