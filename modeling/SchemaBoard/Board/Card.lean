import SchemaBoard.Board.Focus
import SchemaBoard.Schema.Basic

/-!
# Cards

A card shows one model in one mode: the first few names of its fields, all fields as rows, or its
code as clean markup once that is there.
-/
namespace SchemaBoard

/-- A field as a row of a table. -/
structure Row where
  name : String
  type : String
  constraints : List String
  relationFields : List String
  relationReferences : List String
  isIndex : Bool
  /-- The type of a field in a relation stands out. -/
  isEmphasized : Bool
  deriving DecidableEq, Repr

def Field.row (f : Field) : Row where
  name := f.name
  type := f.type
  constraints := f.constraints
  relationFields := f.relationFields
  relationReferences := f.relationReferences
  isIndex := f.isIndex
  isEmphasized := f.isRelation

inductive CardBody where
  | preview (names : List String)
  | table (rows : List Row)
  | code (html : Option String)
  deriving DecidableEq, Repr

structure Card where
  id : String
  name : String
  mode : Mode
  width : Width
  body : CardBody
  deriving DecidableEq, Repr

/-- The number of names on a collapsed card. -/
def previewLength : Nat := 3

def Model.body (m : Model) (mode : Mode) (highlight : Option String) : CardBody :=
  match mode with
  | .collapsed => .preview ((m.fields.take previewLength).map (·.name))
  | .table => .table (m.fields.map (·.row))
  | .code => .code highlight

/-- The card of a model; the highlight is markup that is already clean. -/
def Model.card (m : Model) (mode : Mode) (highlight : Option String) (width : Width) : Card where
  id := m.id
  name := m.name
  mode := mode
  width := width
  body := m.body mode highlight

end SchemaBoard
