import SchemaBoard.Board.Display
import SchemaBoard.Text.Outline

/-!
# Displays in words

The outline of a display: the analysis on show and the focus.
-/
namespace SchemaBoard

open Text Text.Outline

def Span.describe (s : Span) : String :=
  record "Span" [("start", toString s.start), ("end", toString s.stop)]

def Field.describe (f : Field) : String :=
  record "Field"
    [("name", quoted f.name), ("field_type", quoted f.type), ("is_index", flag f.isIndex),
      ("constraints", list quoted f.constraints),
      ("relation_ship_fields", list quoted f.relationFields),
      ("relation_ship_references", list quoted f.relationReferences)]

def Model.describe (m : Model) : String :=
  record "Model"
    [("id", quoted m.id), ("name", quoted m.name), ("span", m.span.describe),
      ("fields", list Field.describe m.fields), ("code", quoted m.code)]

def Analysis.describe (a : Analysis) : String :=
  record "SchemaResult" [("schema", quoted a.schema), ("result", list Model.describe a.models)]

def Mode.describe : Mode → String
  | .collapsed => "Collapsed"
  | .table => "Table"
  | .code => "Code"

def Focus.describe (f : Focus) : String :=
  record "ActiveModel" [("id", quoted f.id), ("mode", f.mode.describe)]

/-- The outline of a display that follows a store. -/
def Display.describe (d : Display) : String :=
  record "DisplayEngine"
    [("state", record "EngineState"
        [("schema", optional Analysis.describe d.analysis),
          ("active", optional Focus.describe d.focus)]),
      ("mounted", flag true)]

end SchemaBoard
