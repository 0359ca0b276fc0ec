import SchemaBoard.Html.Dom

/-!
# Growing a tree from tokens

A `Builder` holds the tree grown so far, the stack of open elements (innermost first), the list of
formatting elements that are to be opened again where misnested markup closed them (latest first),
and the mode that decides which rules read the next token. This module has the moves that the rules
are made of.
-/
namespace SchemaBoard.Html

structure OpenElement where
  id : Nat
  kind : Kind
  deriving DecidableEq, Repr

/-- An entry of the list of formatting elements: an element with the tag it came from, or the border
of a table cell, a caption, a plugin or a template. -/
inductive Mark where
  | border
  | element (id : Nat) (tag : Tag)
  deriving Repr

inductive Mode where
  | body | text | table | tableText | caption | columnGroup | tableBody | row | cell | template
  deriving DecidableEq, Repr

/-- Where a node goes: last inside another, or right before a table. -/
inductive Place where
  | inside (parent : Nat)
  | before (table : Nat)

structure Builder where
  dom : Dom
  opened : List OpenElement
  marks : List Mark := []
  mode : Mode := .body
  /-- The mode to go back to after the text of an element or of a table. -/
  resume : Mode := .body
  /-- The modes of the open templates, innermost first. -/
  templates : List Mode := []
  form : Option Nat := none
  /-- Whether content that is misplaced in a table goes before the table. -/
  fostering : Bool := false
  /-- Whether a line feed that comes next is left out. -/
  skipFeed : Bool := false
  /-- Text of a table that waits for its end. -/
  held : List Char := []
  content : Content := .data

/-- How a rule leaves a token: dealt with, or to be read again under the rules that now hold. -/
inductive Outcome where
  | done (b : Builder)
  | again (b : Builder) (t : Token)

def htmlKind (name : String) : Kind := ⟨.html, name⟩

namespace Builder

/-- A fragment grows under one root element. -/
def start : Builder where
  dom := ({} : Dom).add (.element { kind := htmlKind "html" })
  opened := [⟨0, htmlKind "html"⟩]

def currentKind (b : Builder) : Kind :=
  match b.opened with
  | [] => htmlKind "html"
  | e :: _ => e.kind

def isCurrent (b : Builder) (name : String) : Bool := b.currentKind.isNamed name

def hasOpen (b : Builder) (name : String) : Bool := b.opened.any (·.kind.isNamed name)

def pop (b : Builder) : Builder := { b with opened := b.opened.tail }

/-- Close elements up to the first that satisfies `p`, and this one too. -/
def popThrough (p : Kind → Bool) (b : Builder) : Builder :=
  { b with opened := (b.opened.dropWhile fun e => !p e.kind).tail }

/-- Close elements up to the first that satisfies `p`, which stays open. -/
def popTo (p : Kind → Bool) (b : Builder) : Builder :=
  { b with opened := b.opened.dropWhile fun e => !p e.kind }

def popWhile (p : Kind → Bool) (b : Builder) : Builder :=
  { b with opened := b.opened.dropWhile fun e => p e.kind }

/-- Whether a search from the innermost element meets `target` before an element that `stop`
names. -/
def reaches (stop : Kind → Bool) (target : OpenElement → Bool) : List OpenElement → Bool
  | [] => false
  | e :: rest => target e || (!stop e.kind && reaches stop target rest)

def inScope (b : Builder) (name : String) : Bool :=
  reaches Kind.endsScope (·.kind.isNamed name) b.opened

def inTableScope (b : Builder) (p : Kind → Bool) : Bool :=
  reaches Kind.endsTableScope (fun e => p e.kind) b.opened

def closeImplied (b : Builder) : Builder := b.popWhile Kind.isImplied

def closeImpliedExcept (name : String) (b : Builder) : Builder :=
  b.popWhile fun k => k.isImplied && k.name != name

/-- Where misplaced content of a table goes: before the table, or into a template inside it. -/
def fosterPlace (dom : Dom) : List OpenElement → Place
  | [] => .inside 0
  | e :: rest =>
    if e.kind.isNamed "template" then .inside e.id
    else if e.kind.isNamed "table" then
      match dom.parent? e.id, rest with
      | some _, _ => .before e.id
      | none, o :: _ => .inside o.id
      | none, [] => .inside 0
    else fosterPlace dom rest

/-- Where new content under an open element goes. -/
def placeUnder (b : Builder) (target : OpenElement) : Place :=
  if b.fostering && target.kind.isTablePart then fosterPlace b.dom b.opened
  else .inside target.id

def place (b : Builder) : Place :=
  match b.opened with
  | [] => .inside 0
  | e :: _ => b.placeUnder e

def put (id : Nat) (p : Place) (b : Builder) : Builder :=
  match p with
  | .inside parent => { b with dom := b.dom.append parent id }
  | .before table => { b with dom := b.dom.place table id }

def nextId (b : Builder) : Nat := b.dom.nodes.size

def create (m : Matter) (b : Builder) : Builder := { b with dom := b.dom.add m }

/-- Add a node at the place for new content. -/
def addNode (m : Matter) (b : Builder) : Builder := (b.create m).put b.nextId b.place

def addText (chars : List Char) (b : Builder) : Builder :=
  if chars.isEmpty then b else b.addNode (.text chars)

/-- Add an element without opening it. -/
def addEmpty (k : Kind) (attributes : List Attribute) (b : Builder) : Builder :=
  b.addNode (.element ⟨k, attributes⟩)

/-- Add an element and open it. -/
def insert (k : Kind) (attributes : List Attribute) (b : Builder) : Builder :=
  let grown := b.addEmpty k attributes
  { grown with opened := ⟨b.nextId, k⟩ :: grown.opened }

def openTag (tag : Tag) (b : Builder) : Builder := b.insert (htmlKind tag.name) tag.attributes

def addTag (tag : Tag) (b : Builder) : Builder := b.addEmpty (htmlKind tag.name) tag.attributes

/-- Open an element that no tag stands for. -/
def openImplied (name : String) (b : Builder) : Builder := b.insert (htmlKind name) []

def enter (m : Mode) (b : Builder) : Builder := { b with mode := m }

/-- Open an element whose content is read as text. -/
def openText (tag : Tag) (c : Content) (b : Builder) : Builder :=
  let grown := b.openTag tag
  { grown with resume := grown.mode, mode := .text, content := c }

def closeNamed (name : String) (b : Builder) : Builder := b.popThrough (·.isNamed name)

/-- Close the paragraph that is open, with all in it. -/
def closeParagraph (b : Builder) : Builder :=
  (b.closeImpliedExcept "p").closeNamed "p"

def hasParagraph (b : Builder) : Bool :=
  reaches Kind.endsButtonScope (·.kind.isNamed "p") b.opened

def endParagraph (b : Builder) : Builder := if b.hasParagraph then b.closeParagraph else b

/-- Forget the formatting elements back to the last border. -/
def clearMarks (b : Builder) : Builder :=
  { b with marks := (b.marks.dropWhile fun m => match m with
      | .border => false
      | .element _ _ => true).tail }

def addBorder (b : Builder) : Builder := { b with marks := .border :: b.marks }

/-- The mode that fits the open elements. -/
def fittingMode (templates : List Mode) : List OpenElement → Mode
  | [] => .body
  | [_] => .body
  | e :: rest =>
    if e.kind.isCell then .cell
    else if e.kind.isNamed "tr" then .row
    else if e.kind.isOneOf ["tbody", "thead", "tfoot"] then .tableBody
    else if e.kind.isNamed "caption" then .caption
    else if e.kind.isNamed "colgroup" then .columnGroup
    else if e.kind.isNamed "table" then .table
    else if e.kind.isNamed "template" then templates.headD .body
    else fittingMode templates rest

def resetMode (b : Builder) : Builder := b.enter (fittingMode b.templates b.opened)

end Builder
end SchemaBoard.Html
