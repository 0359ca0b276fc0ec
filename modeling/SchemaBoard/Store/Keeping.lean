import SchemaBoard.Store.Round

/-!
# Listeners that keep subscriptions

A listener may keep subscriptions of the store that tells it. It is dropped, and they go with it,
when it is no longer registered and no round holds it. A round holds the listener that it is telling
and those that still wait in it. One that leaves meanwhile is let go when the round has passed it,
and what it kept is discarded then. One that no round holds is dropped on the spot, while the store
is at work on its list. The end of a subscription that goes with it finds the store busy and fails:
its handle is spent, and its listener stays. A second failure while the first one unwinds ends the
program.

The hubs of `SchemaBoard.Store.Round` are the estates in which no listener keeps anything.
-/
namespace SchemaBoard

variable {L V : Type}

namespace Hub

/-- Whether the round that is on tells a listener or has it wait. -/
def holds (h : Hub L V) (i : Nat) : Bool :=
  match h.store.round with
  | some r => r.current == some i || r.waiting.contains i
  | none => false

/-- The slot whose subscription a request ends, if it is heard. -/
def ended? (h : Hub L V) (r : Request L V) : Option String :=
  if r.needsStore && !h.isOpen then none else r.vacated?

/-- The listener that a request drops on the spot. -/
def dropped? (h : Hub L V) (r : Request L V) : Option Nat :=
  ((h.ended? r).bind fun slot => h.slots.lookup slot).filter fun i =>
    h.isAlive && h.store.listeners.contains i && !h.holds i

end Hub

/-- A hub, and which of its slots are in the keeping of which listener. -/
structure Estate (L V : Type) where
  hub : Hub L V := {}
  kept : Keyed String Nat := []

/-- How an action ends. -/
inductive Upshot (L V A : Type) where
  | done (e : Estate L V) (answer : A)
  /-- It failed, and the subscription of this listener is lost. -/
  | lost (e : Estate L V) (listener : Nat)
  /-- It was the end of the program. -/
  | aborted

/-- The state after an action, and the listeners whose subscriptions it lost. -/
def Upshot.left? {A : Type} : Upshot L V A → Option (Estate L V × List Nat)
  | .done e _ => some (e, [])
  | .lost e j => some (e, [j])
  | .aborted => none

namespace Estate

/-- The slots that a listener keeps, with the listeners of their subscriptions. -/
def keeps (e : Estate L V) (i : Nat) : Keyed String Nat :=
  e.hub.slots.filter fun q => e.kept.lookup q.1 = some i

/-- Give a subscription into the keeping of a listener. -/
def hand (e : Estate L V) (slot : String) (i : Nat) : Estate L V :=
  { e with kept := Keyed.put slot i e.kept }

/-- Take a subscription out of the keeping of its listener. -/
def take (e : Estate L V) (slot : String) : Estate L V :=
  { e with kept := Keyed.remove slot e.kept }

/-- Drop a subscription that a listener kept, while the store is busy. Nothing comes of it. -/
def spend (e : Estate L V) (slot : String) : Estate L V where
  hub := { e.hub with
    slots := Keyed.remove slot e.hub.slots
    log := .asked (e.kept.lookup slot) (.discard slot) (.flag true) :: e.hub.log }
  kept := Keyed.remove slot e.kept

/-- What a request leaves if nothing fails. The slot that it empties or fills is in nobody's keeping.
-/
def after (e : Estate L V) (asker : Option Nat) (r : Request L V) : Estate L V where
  hub := (e.hub.perform asker r).1
  kept := (e.hub.ended? r).elim e.kept fun slot => Keyed.remove slot e.kept

/-- What goes with the listener that a request drops on the spot. -/
def going (e : Estate L V) (asker : Option Nat) (r : Request L V) : Keyed String Nat :=
  (e.hub.dropped? r).elim [] (e.after asker r).keeps

/-- Carry out a request. -/
def perform (e : Estate L V) (asker : Option Nat) (r : Request L V) : Upshot L V (Answer V) :=
  match e.going asker r with
  | [] => .done (e.after asker r) (e.hub.perform asker r).2
  | [(slot, j)] => .lost ((e.after asker r).spend slot) j
  | _ => .aborted

/-- Discard subscriptions that a listener kept, one after another, also after one has failed. -/
def discardAll (e : Estate L V) (i : Nat) : List String → Upshot L V Unit
  | [] => .done e ()
  | slot :: slots =>
    match e.perform (some i) (.discard slot) with
    | .done g _ => g.discardAll i slots
    | .lost g j =>
      match g.discardAll i slots with
      | .done m _ => .lost m j
      | _ => .aborted
    | .aborted => .aborted

/-- Go on with the round, which lets go of a listener. If it has left, what it kept is discarded. -/
def letGo (e : Estate L V) (n : Notice V) (i : Nat) (waiting : List Nat) : Upshot L V Unit :=
  let m : Estate L V := { e with hub := e.hub.setRound (some ⟨n, none, waiting⟩) }
  if m.hub.store.listeners.contains i then .done m () else m.discardAll i ((m.keeps i).map (·.1))

/-- Unwind a round, which lets go of these listeners one after another. -/
def unwind (e : Estate L V) (n : Notice V) : List Nat → Option (Estate L V)
  | [] => some e
  | i :: waiting =>
    match e.letGo n i waiting with
    | .done g _ => g.unwind n waiting
    | _ => none

/-- End the round early with the failure of a listener. -/
def abandon (e : Estate L V) (n : Notice V) (i : Nat) (held : List Nat) (message : String) :
    Option (Estate L V) :=
  (e.unwind n held).map fun g => { g with hub := g.hub.abandon i message }

variable [Listener L V]

/-- Let a listener have its next step. `busy` is the message of a store that is busy. -/
def follow (e : Estate L V) (busy : String) (n : Notice V) (i : Nat) (waiting : List Nat) :
    Upshot L V Unit :=
  match (e.hub.store.state? i).bind Listener.intent with
  | none =>
    match e.letGo n i waiting with
    | .done g _ => .done g ()
    | .lost g j => (g.abandon n i waiting busy).elim .aborted (.lost · j)
    | .aborted => .aborted
  | some (.fail message) => (e.abandon n i (i :: waiting) message).elim .aborted (.done · ())
  | some (.ask r) =>
    match e.perform (some i) r with
    | .done g a => .done { g with hub := g.hub.alter i (Listener.learn · a) } ()
    | .lost g j => (g.abandon n i (i :: waiting) busy).elim .aborted (.lost · j)
    | .aborted => .aborted

/-- One step of the notices' way; none when all is quiet. -/
def step? (e : Estate L V) (busy : String) : Option (Upshot L V Unit) :=
  match e.hub.store.round with
  | some ⟨n, some i, waiting⟩ => some (e.follow busy n i waiting)
  | _ => e.hub.step?.map fun h => .done { e with hub := h } ()

end Estate
end SchemaBoard
