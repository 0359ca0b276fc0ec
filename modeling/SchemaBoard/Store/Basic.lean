import SchemaBoard.Keyed
import SchemaBoard.Store.Entry
import SchemaBoard.Text.Outline

/-!
# The store

Entries by tag, the numbers issued for each tag, and the listeners that are told of every entry that
lands. An entry lands at once; its notice waits in line, and the notices go round the listeners one
by one. A listener that was ever subscribed is known by its place in `subscribers`; those in
`listeners` are registered, in the order of their subscription.
-/
namespace SchemaBoard

/-- A notice on its way: whom it has reached and who still waits for it. -/
structure Round (V : Type) where
  notice : Notice V
  current : Option Nat
  waiting : List Nat

/-- A listener, with the name it goes by. -/
structure Subscriber (L : Type) where
  name : String
  state : L

structure Store (L V : Type) where
  entries : Keyed String (Entry V) := []
  issued : Keyed String Nat := []
  subscribers : List (Subscriber L) := []
  listeners : List Nat := []
  pending : List (Notice V) := []
  round : Option (Round V) := none

namespace Store

variable {L V : Type}

/-- No notice is on its way or waits. -/
def isIdle (s : Store L V) : Bool := s.round.isNone && s.pending.isEmpty

/-- The last number issued for a tag, zero before the first. -/
def latest (s : Store L V) (tag : String) : Nat := (s.issued.lookup tag).getD 0

/-- Issue the next number for a tag. -/
def issue (s : Store L V) (tag : String) : Store L V :=
  { s with issued := Keyed.put tag (s.latest tag + 1) s.issued }

/-- Keep an entry under a tag, and put its notice at the end of the line. -/
def land (s : Store L V) (n : Notice V) : Store L V :=
  { s with entries := Keyed.put n.tag n.entry s.entries, pending := s.pending ++ [n] }

def read (s : Store L V) (tag : String) : Option (Entry V) := s.entries.lookup tag

/-- The value under a tag, if its entry is a success. -/
def value (s : Store L V) (tag : String) : Option V := (s.read tag).bind (·.outcome.value?)

def count (s : Store L V) : Nat := s.listeners.length

/-- Register a listener, whose place is that of the next subscriber. -/
def subscribe (s : Store L V) (name : String) (l : L) : Store L V :=
  { s with
    subscribers := s.subscribers ++ [⟨name, l⟩]
    listeners := s.listeners ++ [s.subscribers.length] }

/-- Take a listener out of those registered. -/
def detach (s : Store L V) (i : Nat) : Store L V :=
  { s with listeners := s.listeners.filter (· ≠ i) }

/-- The state of the listener at a place. -/
def state? (s : Store L V) (i : Nat) : Option L := (s.subscribers[i]?).map (·.state)

/-- Change the state of the listener at a place. -/
def alter (s : Store L V) (i : Nat) (f : L → L) : Store L V :=
  { s with subscribers := s.subscribers.modify i fun x => { x with state := f x.state } }

/-- The store in words: its tags and the number of its listeners. -/
def describe (s : Store L V) : String :=
  Text.Outline.record "ResultCache"
    [("tags", Text.Outline.list (Text.quoted ·.1) s.entries), ("listeners", toString s.count)]

@[simp] theorem latest_issue (s : Store L V) (tag : String) :
    (s.issue tag).latest tag = s.latest tag + 1 := by
  simp [latest, issue]

theorem latest_issue_of_ne (s : Store L V) {tag t : String} (h : t ≠ tag) :
    (s.issue tag).latest t = s.latest t := by
  simp [latest, issue, Keyed.lookup_put_of_ne _ _ h]

@[simp] theorem read_land (s : Store L V) (n : Notice V) :
    (s.land n).read n.tag = some n.entry := by
  simp [read, land]

theorem read_land_of_ne (s : Store L V) (n : Notice V) {t : String} (h : t ≠ n.tag) :
    (s.land n).read t = s.read t := by
  simp [read, land, Keyed.lookup_put_of_ne _ _ h]

end Store
end SchemaBoard
