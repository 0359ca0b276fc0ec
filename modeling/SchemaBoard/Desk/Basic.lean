import SchemaBoard.Desk.Watcher

/-!
# The desk

A desk holds a store of analyses, a display that follows it, and the service. A file that is taken
in is sent to the service under the next number, and what comes back lands in the store unless a
later number has been issued. Further displays may be put up and taken down; one put up late shows
nothing of what landed before.
-/
namespace SchemaBoard

open Remote (Service)

structure Desk (σ X : Type) where
  hub : Hub (Watcher X) Analysis
  service : σ
  /-- The places of the displays that were put up, by name. -/
  extra : Keyed String Nat := []

/-- What is offered for taking in files: a place to drop them, or a button once a schema is there.
-/
inductive Offer where
  | dropZone
  | uploadAnother
  deriving DecidableEq, Repr

def Offer.name : Offer → String
  | .dropZone => "drop_zone"
  | .uploadAnother => "upload_another"

namespace Desk

variable {σ X : Type}

/-- The name of the display that a desk starts with. -/
def mainName : String := "main"

/-- A desk with its display, which is the first listener of the store. -/
def start (w : σ) : Desk σ X where
  hub := Hub.subscribe { isPinned := true } mainName (.display {})
  service := w

/-- Start taking in a file: the number under which it will land. -/
def begin (d : Desk σ X) : Nat × Desk σ X :=
  let hub := d.hub.issue analysisTag
  (hub.store.latest analysisTag, { d with hub := hub })

def read (d : Desk σ X) (tag : String) : Option (Entry Analysis) := d.hub.store.read tag

def offer (d : Desk σ X) : Offer :=
  match d.read analysisTag with
  | some e => if e.outcome.isSuccess then .uploadAnother else .dropZone
  | none => .dropZone

/-- What is kept of an answer: the analysis, or the message of the failure. -/
def outcome : Except Reply.Failure Analysis → Outcome Analysis
  | .ok a => .success a
  | .error e => .failure e.message

/-- Let an answer land under the number it was asked for, unless a later number has been issued. -/
def land? (d : Desk σ X) (sequence : Nat) (reply : Except Reply.Failure Analysis) :
    Option (Desk σ X) :=
  (Hub.writeAt? { d.hub with fault := none } analysisTag sequence (outcome reply)).map fun hub =>
    { d with hub := hub }

section Displays

/-- The place of the display of a name. -/
def place? (d : Desk σ X) (name : String) : Option Nat :=
  if name = mainName then some 0 else d.extra.lookup name

def display? (d : Desk σ X) (name : String) : Option Display :=
  (d.place? name).bind fun i => (d.hub.store.state? i).bind Watcher.display?

def setDisplay (d : Desk σ X) (name : String) (x : Display) : Desk σ X :=
  match d.place? name with
  | some i =>
    { d with hub := { d.hub with store := d.hub.store.alter i (Watcher.mapDisplay fun _ => x) } }
  | none => d

/-- Take down a display that was put up. -/
def unmount (d : Desk σ X) (name : String) : Bool × Desk σ X :=
  match d.extra.lookup name with
  | some i => (true, { d with hub := d.hub.detach i, extra := Keyed.remove name d.extra })
  | none => (false, d)

/-- Put up a display. One of the same name is taken down after the new one is up. -/
def mount (d : Desk σ X) (name : String) : Desk σ X :=
  let i := d.hub.store.subscribers.length
  let (_, e) := unmount { d with hub := d.hub.subscribe name (.display {}) } name
  { e with extra := Keyed.put name i e.extra }

/-- Do something with the display of a name and the service; what fails changes nothing. -/
def operate (d : Desk σ X) (name : String)
    (f : Display → σ → Except ControlError (α × Display × σ)) :
    Option (Except ControlError α × Desk σ X) :=
  (d.display? name).map fun x =>
    match f x d.service with
    | .ok (a, x, w) => (.ok a, { d.setDisplay name x with service := w })
    | .error e => (.error e, d)

end Displays

variable [Listener X Analysis] [Bounded X Analysis]

/-- Write under a tag, whatever has been issued. -/
def write (d : Desk σ X) (tag : String) (o : Outcome Analysis) : Desk σ X :=
  { d with hub := (Hub.write { d.hub with fault := none } tag o).settle }

/-- Finish what was started under a number. Nothing lands if a later number has been issued. -/
def finish (d : Desk σ X) (sequence : Nat) (reply : Except Reply.Failure Analysis) :
    Bool × Desk σ X :=
  match d.land? sequence reply with
  | some e => (true, { e with hub := e.hub.settle })
  | none => (false, d)

/-- Take in a file. One that is refused is not sent and changes nothing. -/
def upload (s : Service σ) (d : Desk σ X) (f : Intake.File) : Desk σ X :=
  if f.isAccepted then
    let (sequence, d) := d.begin
    let (reply, w) := s.analyse d.service f
    (finish { d with service := w } sequence reply).2
  else d

/-- Let others than the displays ask something of the store. -/
def ask (d : Desk σ X) (o : Order X Analysis) : Except String (Answer Analysis) × Desk σ X :=
  let (hub, a) := d.hub.drive (o.map .other)
  (a, { d with hub := hub })

@[simp] theorem finish_fst (d : Desk σ X) (sequence : Nat)
    (reply : Except Reply.Failure Analysis) :
    (d.finish sequence reply).1 = (d.land? sequence reply).isSome := by
  cases h : d.land? sequence reply <;> simp [finish, h]

end Desk
end SchemaBoard
