import SchemaBoard.Html.Builder

/-!
# Formatting elements

Formatting may be closed out of order. What was open when a block ended is opened again before the
next content (`reopen`), and a closing tag that stands inside a block splits its element in two
(`adopt`), so that the tree stays a tree.
-/
namespace SchemaBoard.Html

namespace Mark

def isFor (id : Nat) : Mark → Bool
  | .border => false
  | .element i _ => i = id

end Mark

/-- Equality of tags up to the order of their attributes. -/
def Tag.isLike (a b : Tag) : Bool :=
  a.name = b.name && a.attributes.length = b.attributes.length
    && a.attributes.all (b.attributes.contains ·)

namespace Builder

def isOpen (b : Builder) (id : Nat) : Bool := b.opened.any (·.id = id)

def hasMark (b : Builder) (id : Nat) : Bool := b.marks.any (·.isFor id)

/-- The tags to open again, latest first: those after the last border or open element. -/
def closedMarks (b : Builder) : List Mark → List Tag
  | [] => []
  | .border :: _ => []
  | .element id tag :: rest => if b.isOpen id then [] else tag :: closedMarks b rest

/-- Open tags in order, with a mark for each. -/
def openMarked (b : Builder) : List Tag → Builder
  | [] => b
  | tag :: rest =>
    let grown := b.openTag tag
    openMarked { grown with marks := .element b.nextId tag :: grown.marks } rest

/-- Open the formatting elements again that are still in force and no longer open. -/
def reopen (b : Builder) : Builder :=
  let tags := b.closedMarks b.marks
  openMarked { b with marks := b.marks.drop tags.length } tags.reverse

/-- The marks since the last border. -/
def recentMarks (marks : List Mark) : List Mark :=
  marks.takeWhile fun
    | .border => false
    | .element _ _ => true

/-- The earliest of three marks for one tag makes room for a fourth. -/
def makeRoom (tag : Tag) (marks : List Mark) : List Mark :=
  let alike : List Nat := (recentMarks marks).filterMap fun
    | .border => none
    | .element id t => if tag.isLike t then some id else none
  match alike[2]? with
  | none => marks
  | some _ => marks.filter fun m => !(alike.getLast?.any m.isFor)

/-- Open a formatting element and mark it. -/
def openFormatting (tag : Tag) (b : Builder) : Builder :=
  openMarked { b with marks := makeRoom tag b.marks } [tag]

/-- The latest mark of a name since the last border. -/
def findMark (name : String) : List Mark → Option (Nat × Tag)
  | [] => none
  | .border :: _ => none
  | .element id tag :: rest => if tag.name = name then some (id, tag) else findMark name rest

def removeMark (id : Nat) (b : Builder) : Builder :=
  { b with marks := b.marks.filter fun m => !m.isFor id }

/-- A closing tag that no other rule reads: it closes the nearest element of its name, unless a
special element is nearer. -/
def closeOther (name : String) (b : Builder) : Builder :=
  if reaches Kind.isSpecial (·.kind.isNamed name) b.opened then
    let rest := (b.opened.dropWhile fun e => !e.kind.isNamed name).tail
    { b with opened := rest }
  else b

/-- The elements between the block and the formatting element, from the block outward, while an
element is split: the first three that are marked are copied, each copy taking in what was moved
before; all others are closed. Kept are the copies, and `moved` is the outermost node so far. -/
structure Chain where
  builder : Builder
  kept : List OpenElement := []
  moved : Nat
  /-- The innermost copy, behind which the mark of the new formatting element goes. -/
  first : Option Nat := none

def Chain.step (c : Chain) (e : OpenElement) (position : Nat) : Chain :=
  let tag? : Option Tag := c.builder.marks.findSome? fun
    | .border => none
    | .element id tag => if id = e.id then some tag else none
  match tag? with
  | none => c
  | some tag =>
    if 3 ≤ position then { c with builder := c.builder.removeMark e.id }
    else
      let b := c.builder
      let id := b.nextId
      let grown := b.create (.element ⟨htmlKind tag.name, tag.attributes⟩)
      let marks := grown.marks.map fun m => if m.isFor e.id then .element id tag else m
      { builder := { grown with marks := marks, dom := (grown.dom.detach c.moved).append id c.moved }
        kept := c.kept ++ [⟨id, htmlKind tag.name⟩]
        moved := id
        first := c.first.or (some id) }

def Chain.walk (c : Chain) : List OpenElement → Nat → Chain
  | [], _ => c
  | e :: rest, n => (c.step e n).walk rest (n + 1)

/-- Put the mark of a new element in place of the old one, or behind the innermost copy. -/
def moveMark (old : Nat) (new : Mark) (first : Option Nat) (marks : List Mark) : List Mark :=
  match first with
  | none => marks.map fun m => if m.isFor old then new else m
  | some id =>
    (marks.flatMap fun m => if m.isFor id then [new, m] else [m]).filter fun m => !m.isFor old

/-- Split the formatting element `f` around the block: `inner` are the open elements inside the
block, `between` those from the block out to `f`, `outer` those around `f`. -/
def split (b : Builder) (f : OpenElement) (tag : Tag) (inner : List OpenElement)
    (block : OpenElement) (between outer : List OpenElement) : Builder :=
  let chain := ({ builder := b, moved := block.id } : Chain).walk between 0
  let loose := { chain.builder with dom := chain.builder.dom.detach chain.moved }
  let hung :=
    match outer with
    | [] => loose.put chain.moved (.inside 0)
    | ancestor :: _ => loose.put chain.moved (loose.placeUnder ancestor)
  let id := hung.nextId
  let grown := hung.create (.element ⟨htmlKind tag.name, tag.attributes⟩)
  { grown with
    dom := (grown.dom.moveChildren block.id id).append block.id id
    marks := moveMark f.id (.element id tag) chain.first grown.marks
    opened := inner ++ ⟨id, htmlKind tag.name⟩ :: block :: chain.kept ++ outer }

/-- One round of closing a formatting element out of order; `none` when nothing is left to do. -/
def adoptOnce (name : String) (b : Builder) : Builder × Bool :=
  match findMark name b.marks with
  | none => (b.closeOther name, false)
  | some (id, tag) =>
    match b.opened.find? (·.id = id) with
    | none => (b.removeMark id, false)
    | some f =>
      if !reaches Kind.endsScope (·.id = id) b.opened then (b, false)
      else
        let within := b.opened.takeWhile (·.id ≠ id)
        let outer := (b.opened.dropWhile (·.id ≠ id)).tail
        let between := (within.reverse.takeWhile fun e => !e.kind.isSpecial).reverse
        match (within.reverse.dropWhile fun e => !e.kind.isSpecial) with
        | [] => ({ b with opened := outer }.removeMark id, false)
        | block :: inner => (b.split f tag inner.reverse block between outer, true)

def adoptRounds : Nat → String → Builder → Builder
  | 0, _, b => b
  | n + 1, name, b =>
    match b.adoptOnce name with
    | (b, false) => b
    | (b, true) => adoptRounds n name b

/-- Close a formatting element, which may lie outside open blocks. -/
def adopt (name : String) (b : Builder) : Builder :=
  match b.opened with
  | [] => b
  | e :: rest =>
    if e.kind.isNamed name && !b.hasMark e.id then { b with opened := rest }
    else adoptRounds 8 name b

/-- An anchor closes the anchor that is open before it. -/
def closeAnchor (b : Builder) : Builder :=
  match findMark "a" b.marks with
  | none => b
  | some (id, _) =>
    let closed := (b.adopt "a").removeMark id
    { closed with opened := closed.opened.filter (·.id ≠ id) }

end Builder
end SchemaBoard.Html
