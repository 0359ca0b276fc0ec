import SchemaBoard.Html.Builder.Formatting

/-!
# Running content

The rules for tokens outside tables and foreign vocabularies, and the rules for the elements that
are read alike in every mode (scripts, styles, titles, templates).
-/
namespace SchemaBoard.Html.Builder

def startTemplate (tag : Tag) (b : Builder) : Builder :=
  let bordered := b.addBorder
  { bordered.enter .template with templates := .template :: b.templates }.openTag tag

def endTemplate (b : Builder) : Builder :=
  if b.hasOpen "template" then
    let closed := ((b.popWhile Kind.isImpliedIn).closeNamed "template").clearMarks
    { closed with templates := closed.templates.tail }.resetMode
  else b

/-- Opening tags that are read alike in every mode; `none` for all others. -/
def metadata? (tag : Tag) (b : Builder) : Option Builder :=
  match Opening.of tag.name with
  | .metadata => some (b.addTag tag)
  | .title => some (b.openText tag (.escapable tag.name))
  | .rawMetadata => some (b.openText tag (.raw tag.name))
  | .script => some (b.openText tag .script)
  | .template => some (b.startTemplate tag)
  | _ => none

/-- Whether a tag asks for an input that is not shown. -/
def isHidden (tag : Tag) : Bool :=
  tag.attributes.any fun a => a.name = "type" && a.value.toLower = "hidden"

/-- A list item closes the item before it, unless a special element other than `address`, `div` and
`p` is nearer. -/
def closeItem (names : List String) (b : Builder) : Builder :=
  let stops (k : Kind) : Bool := k.isSpecial && !k.isOneOf ["address", "div", "p"]
  let rec nearest : List OpenElement → Option String
    | [] => none
    | e :: rest =>
      if e.kind.isOneOf names then some e.kind.name
      else if stops e.kind then none
      else nearest rest
  match nearest b.opened with
  | some name => (b.closeImpliedExcept name).closeNamed name
  | none => b

def openingOption (tag : Tag) (b : Builder) : Builder :=
  let ready :=
    if b.inScope "select" then b.closeImpliedExcept "optgroup"
    else if b.isCurrent "option" then b.pop
    else b
  ready.reopen.openTag tag

def openingOptionGroup (tag : Tag) (b : Builder) : Builder :=
  let ready :=
    if b.inScope "select" then b.closeImplied
    else if b.isCurrent "option" then b.pop
    else b
  ready.reopen.openTag tag

/-- Open an element of a foreign vocabulary, unless its tag closes itself. -/
def openForeign (v : Vocabulary) (tag : Tag) (b : Builder) : Builder :=
  if tag.selfClosing then b.addEmpty ⟨v, tag.name⟩ tag.attributes
  else b.insert ⟨v, tag.name⟩ tag.attributes

/-- Read an opening tag in running content. -/
def bodyOpening (tag : Tag) (b : Builder) : Builder :=
  match Opening.of tag.name with
  | .root | .misplaced => b
  | .metadata | .title | .rawMetadata | .script | .template => (b.metadata? tag).getD b
  | .block => b.endParagraph.openTag tag
  | .heading =>
    let ready := b.endParagraph
    (if ready.currentKind.isHeading then ready.pop else ready).openTag tag
  | .preformatted => { b.endParagraph.openTag tag with skipFeed := true }
  | .form =>
    if b.hasOpen "template" then b.endParagraph.openTag tag
    else if b.form.isSome then b
    else
      let ready := b.endParagraph
      { ready.openTag tag with form := some ready.nextId }
  | .listItem => ((b.closeItem ["li"]).endParagraph).openTag tag
  | .termItem => ((b.closeItem ["dd", "dt"]).endParagraph).openTag tag
  | .plaintext => { b.endParagraph.openTag tag with content := .plain }
  | .button =>
    let ready := if b.inScope "button" then b.closeImplied.closeNamed "button" else b
    ready.reopen.openTag tag
  | .anchor => b.closeAnchor.reopen.openFormatting tag
  | .formatting => b.reopen.openFormatting tag
  | .unbroken =>
    let ready := b.reopen
    (if ready.inScope "nobr" then (ready.adopt "nobr").reopen else ready).openFormatting tag
  | .plugin => (b.reopen.openTag tag).addBorder
  | .table => (b.endParagraph.openTag tag).enter .table
  | .leaf =>
    b.reopen.addTag (if tag.name = "image" then { tag with name := "img" } else tag)
  | .input =>
    let ready := if b.inScope "select" then b.closeNamed "select" else b
    ready.reopen.addTag tag
  | .empty => b.addTag tag
  | .rule =>
    let ready := b.endParagraph
    (if ready.inScope "select" then ready.closeImplied else ready).addTag tag
  | .textarea => { b.openText tag (.escapable tag.name) with skipFeed := true }
  | .example => b.endParagraph.reopen.openText tag (.raw tag.name)
  | .rawText => b.openText tag (.raw tag.name)
  | .select =>
    if b.inScope "select" then b.closeNamed "select" else b.reopen.openTag tag
  | .option => b.openingOption tag
  | .optionGroup => b.openingOptionGroup tag
  | .rubyBase => (if b.inScope "ruby" then b.closeImplied else b).openTag tag
  | .rubyText => (if b.inScope "ruby" then b.closeImpliedExcept "rtc" else b).openTag tag
  | .math => b.reopen.openForeign .math tag
  | .drawing => b.reopen.openForeign .svg tag
  | .other => b.reopen.openTag tag

/-- Close the element of this name with all in it, if it is in scope. -/
def closeBlock (name : String) (b : Builder) : Builder :=
  if b.inScope name then b.closeImplied.closeNamed name else b

def closeForm (b : Builder) : Builder :=
  if b.hasOpen "template" then b.closeBlock "form"
  else
    match b.form with
    | none => b
    | some id =>
      let freed := { b with form := none }
      if reaches Kind.endsScope (·.id = id) b.opened then
        let closed := freed.closeImplied
        { closed with opened := closed.opened.filter (·.id ≠ id) }
      else freed

/-- Read a closing tag in running content. -/
def bodyClosing (name : String) (b : Builder) : Builder :=
  match Closing.of name with
  | .misplaced => b
  | .template => b.endTemplate
  | .block => b.closeBlock name
  | .form => b.closeForm
  | .paragraph => (if b.hasParagraph then b else b.openImplied "p").closeParagraph
  | .listItem =>
    if reaches Kind.endsListScope (·.kind.isNamed name) b.opened then
      (b.closeImpliedExcept name).closeNamed name
    else b
  | .termItem => if b.inScope name then (b.closeImpliedExcept name).closeNamed name else b
  | .heading =>
    if reaches Kind.endsScope (·.kind.isHeading) b.opened then
      b.closeImplied.popThrough Kind.isHeading
    else b
  | .formatting => b.adopt name
  | .plugin => if b.inScope name then (b.closeBlock name).clearMarks else b
  | .lineBreak => b.bodyOpening ⟨name, [], false⟩
  | .other => b.closeOther name

/-- Read a token in running content. A character without meaning (NUL) is left out. -/
def readBody (t : Token) (b : Builder) : Builder :=
  match t with
  | .text chars =>
    let shown := chars.filter (· ≠ '\x00')
    if shown.isEmpty then b else b.reopen.addText shown
  | .opening tag => b.bodyOpening tag
  | .closing name => b.bodyClosing name
  | .comment | .void => b

/-- Read a token in the text of an element. -/
def readText (t : Token) (b : Builder) : Builder :=
  match t with
  | .text chars => b.addText chars
  | .closing _ => { b.pop with mode := b.resume, content := .data }
  | .opening _ | .comment | .void => b

end SchemaBoard.Html.Builder
