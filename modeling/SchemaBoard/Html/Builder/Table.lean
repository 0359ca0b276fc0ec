import SchemaBoard.Html.Builder.Body

/-!
# Tables and templates

The rules for tokens inside the parts of a table, where running content is misplaced, and directly
inside a template, where the first opening tag tells what the template holds.
-/
namespace SchemaBoard.Html.Builder

/-- Read a misplaced token as running content that goes before the table. -/
def readFostered (t : Token) (b : Builder) : Builder :=
  { readBody t { b with fostering := true } with fostering := false }

/-- Text of a table waits for its end, since it is misplaced unless it is all blank. -/
def readTableText (t : Token) (b : Builder) : Outcome :=
  if b.currentKind.isTablePart then .again { b with resume := b.mode, mode := .tableText } t
  else .done (b.readFostered t)

def isBlankText (c : Char) : Bool :=
  c = ' ' || c = '\n' || c = '\t' || c = '\x0c' || c = '\r'

/-- Add the text that waited. -/
def release (b : Builder) : Builder :=
  let free := { b with held := [], mode := b.resume }
  if b.held.isEmpty then free
  else if b.held.all isBlankText then free.addText b.held
  else readFostered (.text b.held) free

def hold (t : Token) (b : Builder) : Outcome :=
  match t with
  | .text chars => .done { b with held := b.held ++ chars.filter (· ≠ '\x00') }
  | t => .again b.release t

def toTable (b : Builder) : Builder := b.popTo Kind.endsTableScope

def closeTable (b : Builder) : Builder := (b.closeNamed "table").resetMode

/-- The rules directly inside a table. -/
def readTable (t : Token) (b : Builder) : Outcome :=
  match t with
  | .text _ => b.readTableText t
  | .comment | .void => .done b
  | .opening tag =>
    if tag.name = "caption" then .done ((b.toTable.addBorder.openTag tag).enter .caption)
    else if tag.name = "colgroup" then .done ((b.toTable.openTag tag).enter .columnGroup)
    else if tag.name = "col" then
      .again ((b.toTable.openImplied "colgroup").enter .columnGroup) t
    else if ["tbody", "tfoot", "thead"].contains tag.name then
      .done ((b.toTable.openTag tag).enter .tableBody)
    else if ["td", "th", "tr"].contains tag.name then
      .again ((b.toTable.openImplied "tbody").enter .tableBody) t
    else if tag.name = "table" then
      if b.inTableScope (·.isNamed "table") then .again b.closeTable t else .done b
    else if ["style", "script", "template"].contains tag.name then
      .done ((b.metadata? tag).getD b)
    else if tag.name = "input" && isHidden tag then .done (b.addTag tag)
    else if tag.name = "form" then
      if b.hasOpen "template" || b.form.isSome then .done b
      else .done { b.addTag tag with form := some b.nextId }
    else .done (b.readFostered t)
  | .closing name =>
    if name = "table" then
      .done (if b.inTableScope (·.isNamed "table") then b.closeTable else b)
    else if ["body", "caption", "col", "colgroup", "html", "tbody", "td", "tfoot", "th", "thead",
        "tr"].contains name then .done b
    else if name = "template" then .done b.endTemplate
    else .done (b.readFostered t)

def readCaption (t : Token) (b : Builder) : Outcome :=
  let closed := ((b.closeImplied.closeNamed "caption").clearMarks).enter .table
  let isOpen := b.inTableScope (·.isNamed "caption")
  match t with
  | .opening tag =>
    if ["caption", "col", "colgroup", "tbody", "td", "tfoot", "th", "thead", "tr"].contains tag.name
    then if isOpen then .again closed t else .done b
    else .done (b.readBody t)
  | .closing name =>
    if name = "caption" then .done (if isOpen then closed else b)
    else if name = "table" then if isOpen then .again closed t else .done b
    else if ["body", "col", "colgroup", "html", "tbody", "td", "tfoot", "th", "thead",
        "tr"].contains name then .done b
    else .done (b.readBody t)
  | _ => .done (b.readBody t)

/-- Leave a group of columns and read the token in the table. -/
def leaveColumns (t : Token) (b : Builder) : Outcome :=
  if b.isCurrent "colgroup" then .again (b.pop.enter .table) t else .done b

def readColumnGroup (t : Token) (b : Builder) : Outcome :=
  match t with
  | .text chars =>
    let blank := b.addText (chars.takeWhile isBlankText)
    let rest := chars.dropWhile isBlankText
    if rest.isEmpty then .done blank else blank.leaveColumns (.text rest)
  | .comment | .void => .done b
  | .opening tag =>
    if tag.name = "html" then .done b
    else if tag.name = "col" then .done (b.addTag tag)
    else if tag.name = "template" then .done (b.startTemplate tag)
    else b.leaveColumns t
  | .closing name =>
    if name = "colgroup" then .done (if b.isCurrent "colgroup" then b.pop.enter .table else b)
    else if name = "col" then .done b
    else if name = "template" then .done b.endTemplate
    else b.leaveColumns t

/-- Close the group of rows that is open. -/
def closeRowGroup (b : Builder) : Builder := ((b.popTo Kind.isRowGroupContext).pop).enter .table

def readTableBody (t : Token) (b : Builder) : Outcome :=
  let inGroup := b.inTableScope (·.isOneOf ["table", "tbody", "tfoot"])
  match t with
  | .opening tag =>
    if tag.name = "tr" then .done (((b.popTo Kind.isRowGroupContext).openTag tag).enter .row)
    else if ["td", "th"].contains tag.name then
      .again (((b.popTo Kind.isRowGroupContext).openImplied "tr").enter .row) t
    else if ["caption", "col", "colgroup", "tbody", "tfoot", "thead"].contains tag.name then
      if inGroup then .again b.closeRowGroup t else .done b
    else b.readTable t
  | .closing name =>
    if ["tbody", "tfoot", "thead"].contains name then
      .done (if b.inTableScope (·.isNamed name) then b.closeRowGroup else b)
    else if name = "table" then if inGroup then .again b.closeRowGroup t else .done b
    else if ["body", "caption", "col", "colgroup", "html", "td", "th", "tr"].contains name then
      .done b
    else b.readTable t
  | _ => b.readTable t

def closeRow (b : Builder) : Builder := ((b.popTo Kind.isRowContext).pop).enter .tableBody

def readRow (t : Token) (b : Builder) : Outcome :=
  let inRow := b.inTableScope (·.isNamed "tr")
  match t with
  | .opening tag =>
    if ["td", "th"].contains tag.name then
      .done ((((b.popTo Kind.isRowContext).openTag tag).enter .cell).addBorder)
    else if ["caption", "col", "colgroup", "tbody", "tfoot", "thead", "tr"].contains tag.name then
      if inRow then .again b.closeRow t else .done b
    else b.readTable t
  | .closing name =>
    if name = "tr" then .done (if inRow then b.closeRow else b)
    else if name = "table" then if inRow then .again b.closeRow t else .done b
    else if ["tbody", "tfoot", "thead"].contains name then
      if b.inTableScope (·.isNamed name) && inRow then .again b.closeRow t else .done b
    else if ["body", "caption", "col", "colgroup", "html", "td", "th"].contains name then .done b
    else b.readTable t
  | _ => b.readTable t

def closeCell (b : Builder) : Builder :=
  ((b.closeImplied.popThrough Kind.isCell).clearMarks).enter .row

def readCell (t : Token) (b : Builder) : Outcome :=
  match t with
  | .opening tag =>
    if ["caption", "col", "colgroup", "tbody", "td", "tfoot", "th", "thead", "tr"].contains tag.name
    then if b.inTableScope Kind.isCell then .again b.closeCell t else .done b
    else .done (b.readBody t)
  | .closing name =>
    if ["td", "th"].contains name then
      if b.inTableScope (·.isNamed name) then
        .done (((b.closeImplied.closeNamed name).clearMarks).enter .row)
      else .done b
    else if ["body", "caption", "col", "colgroup", "html"].contains name then .done b
    else if ["table", "tbody", "tfoot", "thead", "tr"].contains name then
      if b.inTableScope (·.isNamed name) then .again b.closeCell t else .done b
    else .done (b.readBody t)
  | _ => .done (b.readBody t)

/-- The first opening tag in a template tells the mode of the template. -/
def settleTemplate (m : Mode) (t : Token) (b : Builder) : Outcome :=
  .again ({ b with templates := m :: b.templates.tail }.enter m) t

def readTemplate (t : Token) (b : Builder) : Outcome :=
  match t with
  | .text _ => .done (b.readBody t)
  | .comment | .void => .done b
  | .opening tag =>
    match b.metadata? tag with
    | some grown => .done grown
    | none =>
      if ["caption", "colgroup", "tbody", "tfoot", "thead"].contains tag.name then
        b.settleTemplate .table t
      else if tag.name = "col" then b.settleTemplate .columnGroup t
      else if tag.name = "tr" then b.settleTemplate .tableBody t
      else if ["td", "th"].contains tag.name then b.settleTemplate .row t
      else b.settleTemplate .body t
  | .closing name => .done (if name = "template" then b.endTemplate else b)

/-- Read a token under the rules of the mode. -/
def read (t : Token) (b : Builder) : Outcome :=
  match b.mode with
  | .body => .done (b.readBody t)
  | .text => .done (b.readText t)
  | .table => b.readTable t
  | .tableText => b.hold t
  | .caption => b.readCaption t
  | .columnGroup => b.readColumnGroup t
  | .tableBody => b.readTableBody t
  | .row => b.readRow t
  | .cell => b.readCell t
  | .template => b.readTemplate t

end SchemaBoard.Html.Builder
