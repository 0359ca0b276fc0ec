import SchemaBoard.Store.Request

/-!
# Rounds

A notice goes round the listeners that are registered when its turn comes. A listener that is
reached hears the notice and then asks what it likes, one request after another, before the round
goes on. What it writes lands at once and waits in line for a round of its own, so every listener
hears of the writes in the order in which they landed. A listener that fails ends the round and all
that wait.
-/
namespace SchemaBoard

/-- A listener is a state that hears notices, says what it wants next, and learns the answers. -/
class Listener (L : Type) (V : outParam Type) where
  hear : L → Notice V → L
  /-- The next step, or none if the listener is through with what it heard. -/
  intent : L → Option (Order L V)
  learn : L → Answer V → L

namespace Hub

variable {L V : Type} [Listener L V]

/-- The name of a listener. -/
def nameOf (h : Hub L V) (i : Nat) : String := (h.store.subscribers[i]?).elim "" (·.name)

def setRound (h : Hub L V) (r : Option (Round V)) : Hub L V :=
  { h with store := { h.store with round := r } }

def alter (h : Hub L V) (i : Nat) (f : L → L) : Hub L V := { h with store := h.store.alter i f }

/-- Start the round of a notice, the others staying in line. -/
def start (h : Hub L V) (n : Notice V) (others : List (Notice V)) : Hub L V :=
  { h with store := { h.store with round := some ⟨n, none, h.store.listeners⟩, pending := others } }

/-- Tell a listener of a notice. -/
def call (h : Hub L V) (n : Notice V) (i : Nat) (waiting : List Nat) : Hub L V :=
  ((h.alter i (Listener.hear · n)).setRound (some ⟨n, some i, waiting⟩)).note (.called i n)

/-- End the round early, and drop the notices in line. -/
def abandon (h : Hub L V) (i : Nat) (message : String) : Hub L V :=
  { h with
    store := { h.store with round := none, pending := [] }
    fault := some message
    log := .failed i message :: h.log }

/-- Let a listener have its next step. -/
def follow (h : Hub L V) (n : Notice V) (i : Nat) (waiting : List Nat) : Hub L V :=
  match (h.store.state? i).bind Listener.intent with
  | none => h.setRound (some ⟨n, none, waiting⟩)
  | some (.fail message) => h.abandon i message
  | some (.ask r) =>
    let (g, a) := h.perform (some i) r
    g.alter i (Listener.learn · a)

/-- One step of the notices' way; none when all is quiet. -/
def step? (h : Hub L V) : Option (Hub L V) :=
  match h.store.round with
  | none =>
    match h.store.pending with
    | [] => none
    | n :: others => some (h.start n others)
  | some ⟨_, none, []⟩ => some (h.setRound none)
  | some ⟨n, none, i :: waiting⟩ => some (h.call n i waiting)
  | some ⟨n, some i, waiting⟩ => some (h.follow n i waiting)

/-- So many steps, or fewer if all is quiet before. -/
def advance : Nat → Hub L V → Hub L V
  | 0, h => h
  | k + 1, h =>
    match h.step? with
    | none => h
    | some g => advance k g

theorem step?_eq_none_iff (h : Hub L V) : h.step? = none ↔ h.store.isIdle = true := by
  unfold step? Store.isIdle
  cases hr : h.store.round with
  | none => cases hp : h.store.pending <;> simp
  | some r =>
    obtain ⟨n, c, w⟩ := r
    cases c <;> cases w <;> simp

@[simp] theorem advance_zero (h : Hub L V) : advance 0 h = h := rfl

end Hub
end SchemaBoard
