import SchemaBoard.Board.Gallery
import SchemaBoard.Board.Page
import SchemaBoard.Store.Entry

/-!
# The display

What is on show: the analysis, the focus, and the gallery of highlighted code. Every outcome that
lands under the tag of analyses resets the display. A control needs an analysis on show and a model
of its id in it; without them nothing changes.
-/
namespace SchemaBoard

open Remote (Service)

/-- The tag under which analyses are kept. -/
def analysisTag : String := "schema_cache"

structure Display where
  analysis : Option Analysis := none
  focus : Option Focus := none
  gallery : Gallery := {}
  deriving DecidableEq, Repr

inductive ControlError where
  | noSchema
  | unknownModel (id : String)
  deriving DecidableEq, Repr

def ControlError.message : ControlError → String
  | .noSchema => "no schema is being displayed"
  | .unknownModel id => "unknown model '" ++ id ++ "'"

namespace Display

/-- Show an outcome, and nothing of what was shown before. -/
def reset (d : Display) (o : Outcome Analysis) : Display :=
  { analysis := o.value?, focus := none, gallery := d.gallery.clear }

/-- Notices of other tags mean nothing to a display. -/
def hear (d : Display) (n : Notice Analysis) : Display :=
  if n.tag = analysisTag then d.reset n.entry.outcome else d

/-- The model of an id on show, with the text of its schema. -/
def find (d : Display) (id : String) : Except ControlError (Model × String) :=
  match d.analysis with
  | none => .error .noSchema
  | some a =>
    match a.model? id with
    | none => .error (.unknownModel id)
    | some m => .ok (m, a.schema)

/-- Move the focus by a control of a card. -/
def press (d : Display) (id : String) (c : Control) : Display :=
  { d with focus := SchemaBoard.press d.focus id c }

/-- Move the focus by a control, once the model is found. -/
def move (d : Display) (id : String) (c : Control) : Except ControlError Display :=
  (d.find id).map fun _ => d.press id c

/-- Show a model's code, with a ticket for it unless it hangs in the gallery. -/
def beginCode (d : Display) (id : String) : Except ControlError (Option Ticket × Display) :=
  (d.find id).map fun (m, schema) =>
    (if d.gallery.contains id then none else some (d.gallery.ticket m schema), d.press id .code)

/-- Show a model's code, with a ticket for it in any case; what hangs for it is taken down. -/
def beginRefresh (d : Display) (id : String) : Except ControlError (Ticket × Display) :=
  (d.find id).map fun (m, schema) =>
    (d.gallery.ticket m schema, { d.press id .code with gallery := d.gallery.remove id })

/-- Settle a ticket of the display. -/
def finishCode (d : Display) (t : Ticket) (reply : Except Reply.Failure String) :
    Option String × Display :=
  let (html, g) := d.gallery.settle t reply
  (html, { d with gallery := g })

variable {σ : Type}

/-- Send the request of a ticket and settle it. -/
def run (s : Service σ) (t : Ticket) (d : Display) (w : σ) : Display × σ :=
  let (_, g, w) := d.gallery.run s t w
  ({ d with gallery := g }, w)

/-- Show a model's code, asking for it on first use. -/
def showCode (s : Service σ) (id : String) (d : Display) (w : σ) :
    Except ControlError (Display × σ) :=
  (d.beginCode id).map fun (t, d) =>
    match t with
    | some t => run s t d w
    | none => (d, w)

/-- Show a model's code and ask for it again. -/
def refreshCode (s : Service σ) (id : String) (d : Display) (w : σ) :
    Except ControlError (Display × σ) :=
  (d.beginRefresh id).map fun (t, d) => run s t d w

/-- Use a control of a card. -/
def use (s : Service σ) (id : String) (c : Control) (d : Display) (w : σ) :
    Except ControlError (Display × σ) :=
  match c with
  | .code => d.showCode s id w
  | c => (d.move id c).map (·, w)

def modeOf (d : Display) (id : String) : Mode := SchemaBoard.modeOf d.focus id

def card (d : Display) (m : Model) : Card :=
  m.card (d.modeOf m.id) (d.gallery.get? m.id) (Width.of d.focus m.id)

/-- The cards on show, one for each model in the order of the analysis. -/
def cards (d : Display) : Option (List Card) := d.analysis.map fun a => a.models.map d.card

/-- The page; empty if nothing is on show. -/
def html (d : Display) : String := d.cards.elim "" boardHtml

end Display
end SchemaBoard
