import SchemaBoard.Store.Basic

/-!
# Requests

What can be asked of a store, by its owner or by a listener that is being told of an entry, and what
is answered. Subscriptions are kept in slots by name. No listener keeps one, so what becomes of a
listener that leaves touches nothing else; `SchemaBoard.Store.Keeping` is about those that do.
-/
namespace SchemaBoard

inductive Request (L V : Type) where
  | subscribe (slot : String) (listener : L)
  | unsubscribe (slot : String)
  /-- Let go of a subscription, which ends it as well. -/
  | discard (slot : String)
  | issue (tag : String)
  | write (tag : String) (outcome : Outcome V)
  /-- Write only if the number is the last one issued. -/
  | writeAt (tag : String) (sequence : Nat) (outcome : Outcome V)
  | read (tag : String)
  | value (tag : String)
  | count
  | describe
  | describeSlot (slot : String)
  /-- Give up the handle of the store. -/
  | release

inductive Answer (V : Type) where
  | done
  /-- The handle of the store has been given up. -/
  | gone
  | number (n : Nat)
  | flag (b : Bool)
  | entry (e : Option (Entry V))
  | value (v : Option V)
  | text (s : Option String)
  deriving DecidableEq, Repr

/-- A step of a listener: something asked, or the end of it all with a message. -/
inductive Order (L V : Type) where
  | ask (r : Request L V)
  | fail (message : String)

variable {L M V : Type}

/-- Whether a request goes to the store itself. -/
def Request.needsStore : Request L V → Bool
  | .unsubscribe _ | .discard _ | .describeSlot _ | .release => false
  | _ => true

/-- The slot whose subscription a request ends. A subscription that comes ends the one whose slot it
takes. -/
def Request.vacated? : Request L V → Option String
  | .subscribe slot _ => some slot
  | .unsubscribe slot => some slot
  | .discard slot => some slot
  | _ => none

def Request.map (f : L → M) : Request L V → Request M V
  | .subscribe slot l => .subscribe slot (f l)
  | .unsubscribe slot => .unsubscribe slot
  | .discard slot => .discard slot
  | .issue tag => .issue tag
  | .write tag o => .write tag o
  | .writeAt tag n o => .writeAt tag n o
  | .read tag => .read tag
  | .value tag => .value tag
  | .count => .count
  | .describe => .describe
  | .describeSlot slot => .describeSlot slot
  | .release => .release

def Order.map (f : L → M) : Order L V → Order M V
  | .ask r => .ask (r.map f)
  | .fail m => .fail m

/-- What happened in and around a store. -/
inductive Event (L V : Type) where
  | stored (n : Notice V)
  | called (listener : Nat) (n : Notice V)
  /-- A request and its answer; `none` asks from outside. -/
  | asked (asker : Option Nat) (r : Request L V) (a : Answer V)
  | failed (listener : Nat) (message : String)

/-- A store with its surroundings: the slots, the handle, and all that has happened, the latest
first. -/
structure Hub (L V : Type) where
  store : Store L V := {}
  slots : Keyed String Nat := []
  /-- Whether the handle is still held. -/
  isHeld : Bool := true
  /-- Whether the store has an owner that outlives the handle. -/
  isPinned : Bool := false
  /-- The message with which the last drive ended early. -/
  fault : Option String := none
  log : List (Event L V) := []

namespace Hub

/-- Whether the store can be asked anything. -/
def isOpen (h : Hub L V) : Bool := h.isHeld || h.isPinned

/-- A store lives as long as it is owned, and to the end of the notices on their way. -/
def isAlive (h : Hub L V) : Bool := h.isOpen || !h.store.isIdle

def note (h : Hub L V) (e : Event L V) : Hub L V := { h with log := e :: h.log }

def issue (h : Hub L V) (tag : String) : Hub L V := { h with store := h.store.issue tag }

def land (h : Hub L V) (n : Notice V) : Hub L V :=
  { h with store := h.store.land n, log := .stored n :: h.log }

/-- Write under a number of its own. -/
def write (h : Hub L V) (tag : String) (o : Outcome V) : Hub L V :=
  (h.issue tag).land ⟨tag, (h.store.latest tag + 1), o⟩

/-- Write under a number that was issued before; refused if it is not the last one. -/
def writeAt? (h : Hub L V) (tag : String) (sequence : Nat) (o : Outcome V) : Option (Hub L V) :=
  if sequence = h.store.latest tag then some (h.land ⟨tag, sequence, o⟩) else none

def subscribe (h : Hub L V) (name : String) (l : L) : Hub L V :=
  { h with store := h.store.subscribe name l }

/-- End a subscription, which does nothing after the end of the store. The listener that leaves keeps
no subscription of its own. -/
def detach (h : Hub L V) (i : Nat) : Hub L V :=
  if h.isAlive then { h with store := h.store.detach i } else h

/-- End the subscription of a slot, if there is one. -/
def vacate (h : Hub L V) (slot : String) : Hub L V × Bool :=
  match h.slots.lookup slot with
  | some i => ({ h.detach i with slots := Keyed.remove slot h.slots }, true)
  | none => (h, false)

/-- Subscribe a listener and keep it in a slot. The one that was there goes after the new one came.
-/
def fill (h : Hub L V) (slot : String) (l : L) : Hub L V :=
  let i := h.store.subscribers.length
  let g := ((h.subscribe slot l).vacate slot).1
  { g with slots := Keyed.put slot i g.slots }

def describeSlot (h : Hub L V) (slot : String) : Option String :=
  (h.slots.lookup slot).map fun _ =>
    Text.Outline.record "Subscription" [("active", Text.Outline.flag true)]

/-- What a request does to a store that is still held. -/
def serve (h : Hub L V) : Request L V → Hub L V × Answer V
  | .subscribe slot l => let g := h.fill slot l; (g, .number g.store.count)
  | .unsubscribe slot | .discard slot => let (g, b) := h.vacate slot; (g, .flag b)
  | .issue tag => let g := h.issue tag; (g, .number (g.store.latest tag))
  | .write tag o => (h.write tag o, .done)
  | .writeAt tag n o =>
    match h.writeAt? tag n o with
    | some g => (g, .flag true)
    | none => (h, .flag false)
  | .read tag => (h, .entry (h.store.read tag))
  | .value tag => (h, .value (h.store.value tag))
  | .count => (h, .number h.store.count)
  | .describe => (h, .text (some h.store.describe))
  | .describeSlot slot => (h, .text (h.describeSlot slot))
  | .release => ({ h with isHeld := false }, .flag h.isHeld)

/-- Carry out a request and note it. -/
def perform (h : Hub L V) (asker : Option Nat) (r : Request L V) : Hub L V × Answer V :=
  let (g, a) := if r.needsStore && !h.isOpen then (h, .gone) else h.serve r
  (g.note (.asked asker r a), a)

end Hub
end SchemaBoard
