import SchemaBoard.Board.Card
import SchemaBoard.Text.Escape

/-!
# Cards as markup

A card is written as a sequence of pieces: tags, texts that are escaped when they are written, and
clean markup that is written as it is.
-/
namespace SchemaBoard

inductive Piece where
  | opening (name : String) (attributes : List (String × String))
  | closing (name : String)
  | text (s : String)
  | markup (html : String)
  deriving DecidableEq, Repr

namespace Piece

def renderAttribute (a : String × String) : List Char :=
  ' ' :: a.1.toList ++ ['=', '\x22'] ++ Text.escapeChars a.2.toList ++ ['\x22']

def render : Piece → List Char
  | .opening name attributes => '<' :: name.toList ++ attributes.flatMap renderAttribute ++ ['>']
  | .closing name => ['<', '/'] ++ name.toList ++ ['>']
  | .text s => Text.escapeChars s.toList
  | .markup html => html.toList

/-- Pieces inside an element. -/
def within (name : String) (attributes : List (String × String)) (inner : List Piece) :
    List Piece :=
  .opening name attributes :: inner ++ [.closing name]

def block (label : String) (inner : List Piece) : List Piece :=
  within "div" [("class", label)] inner

end Piece

open Piece

/-- The pieces of a page written down. -/
def renderPieces (ps : List Piece) : String := String.ofList (ps.flatMap Piece.render)

/-- One line for each entry. -/
def entryLines (entries : List String) : List Piece :=
  entries.flatMap fun e => within "div" [] [.text e]

def Row.pieces (r : Row) : List Piece :=
  let emphasis := if r.isEmphasized then [("class", "relation-type")] else []
  within "tr" [] <|
    within "td" [] [.text r.name] ++ within "td" emphasis [.text r.type]
      ++ within "td" [] (entryLines r.constraints) ++ within "td" [] (entryLines r.relationFields)
      ++ within "td" [] (entryLines r.relationReferences)
      ++ within "td" [] [.text (if r.isIndex then "true" else "false")]

/-- The headings of the table of fields. -/
def headings : List String :=
  ["Field name", "Type", "Constraints", "Relationship Field", "Relationship Reference", "Is_Index"]

def headRow : List Piece :=
  within "thead" [] (within "tr" [] (headings.flatMap fun h => within "th" [] [.text h]))

def CardBody.pieces : CardBody → List Piece
  | .preview names =>
    block "model-preview" ((names ++ ["..."]).flatMap fun n => block "preview-row" [.text n])
  | .table rows =>
    within "table" [("class", "model-fields")]
      (headRow ++ within "tbody" [] (rows.flatMap Row.pieces))
  | .code html => block "model-code" [.markup (html.getD "")]

/-- A button, which is active when it leads to the mode that is shown. -/
def Control.pieces (shown : Mode) (c : Control) : List Piece :=
  within "button"
    [("class", if c.target = shown then "control active" else "control"),
      ("data-action", c.target.name)]
    [.text c.label]

def Card.pieces (c : Card) : List Piece :=
  within "div"
    [("class", "model-card model-card--" ++ c.width.name), ("data-model-id", c.id),
      ("data-mode", c.mode.name), ("data-span", toString c.width.columns)]
    (block "model-caption" [.text c.name] ++ c.body.pieces
      ++ block "model-controls" (Control.all.flatMap (Control.pieces c.mode)))

/-- A card as markup. -/
def Card.html (c : Card) : String := renderPieces c.pieces

/-- A board as markup. -/
def boardHtml (cards : List Card) : String :=
  renderPieces (block "schema-grid" (cards.flatMap Card.pieces))

end SchemaBoard
