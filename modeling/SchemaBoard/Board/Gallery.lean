import SchemaBoard.Html.Clean
import SchemaBoard.Keyed
import SchemaBoard.Remote.Service

/-!
# The gallery of highlighted code

Clean markup by model. What is to be highlighted is asked for with a ticket, and the answer is hung
when it comes. Clearing the gallery starts a new generation, and tickets of an earlier one are void:
their schema has been replaced.
-/
namespace SchemaBoard

open Remote (Service)

structure Gallery where
  items : Keyed String String := []
  generation : Nat := 0
  deriving DecidableEq, Repr

/-- A request for highlighted code that is under way. -/
structure Ticket where
  id : String
  request : HighlightRequest
  generation : Nat
  deriving DecidableEq, Repr

namespace Gallery

def get? (g : Gallery) (id : String) : Option String := g.items.lookup id

def contains (g : Gallery) (id : String) : Bool := (g.get? id).isSome

def size (g : Gallery) : Nat := g.items.length

def isEmpty (g : Gallery) : Bool := g.items.isEmpty

/-- Take everything down and start a new generation. -/
def clear (g : Gallery) : Gallery := ⟨[], g.generation + 1⟩

def remove (g : Gallery) (id : String) : Gallery := { g with items := Keyed.remove id g.items }

def hang (g : Gallery) (id html : String) : Gallery := { g with items := Keyed.put id html g.items }

/-- A ticket for a model of a schema. -/
def ticket (g : Gallery) (m : Model) (schema : String) : Ticket :=
  ⟨m.id, ⟨m.span, schema⟩, g.generation⟩

/-- Hang what came for a ticket, after cleaning it. Nothing is hung for a void ticket or a failure.
-/
def settle (g : Gallery) (t : Ticket) (reply : Except Reply.Failure String) :
    Option String × Gallery :=
  if t.generation = g.generation then
    match reply with
    | .ok html => (some (Html.clean html), g.hang t.id (Html.clean html))
    | .error _ => (none, g)
  else (none, g)

variable {σ : Type}

/-- Send the request of a ticket and settle it. -/
def run (s : Service σ) (t : Ticket) (g : Gallery) (w : σ) : Option String × Gallery × σ :=
  let (reply, w) := s.highlight w t.request
  let (html, g) := g.settle t reply
  (html, g, w)

/-- What hangs for a model, asked for only if nothing does. -/
def fetch (s : Service σ) (m : Model) (schema : String) (g : Gallery) (w : σ) :
    Option String × Gallery × σ :=
  match g.get? m.id with
  | some html => (some html, g, w)
  | none => run s (g.ticket m schema) g w

/-- Take down what hangs for a model and ask for it again. -/
def refetch (s : Service σ) (m : Model) (schema : String) (g : Gallery) (w : σ) :
    Option String × Gallery × σ :=
  run s (g.ticket m schema) (g.remove m.id) w

@[simp] theorem get?_hang_self (g : Gallery) (id html : String) :
    (g.hang id html).get? id = some html := by
  simp [get?, hang]

theorem get?_hang_of_ne (g : Gallery) (html : String) {id j : String} (h : j ≠ id) :
    (g.hang id html).get? j = g.get? j := by
  simp [get?, hang, Keyed.lookup_put_of_ne _ _ h]

@[simp] theorem get?_clear (g : Gallery) (id : String) : g.clear.get? id = none := rfl

@[simp] theorem get?_remove_self (g : Gallery) (id : String) : (g.remove id).get? id = none := by
  simp [get?, remove]

theorem get?_remove_of_ne (g : Gallery) {id j : String} (h : j ≠ id) :
    (g.remove id).get? j = g.get? j := by
  simp [get?, remove, Keyed.lookup_remove_of_ne _ h]

end Gallery
end SchemaBoard
