import SchemaBoard.Board.Display
import SchemaBoard.Store.Settle

/-!
# Watchers of a desk

The listeners of a desk's store are displays and whatever else is set to listen. A display only
hears: it asks nothing of the store.
-/
namespace SchemaBoard

inductive Watcher (X : Type) where
  | display (d : Display)
  | other (x : X)

namespace Watcher

variable {X : Type}

def display? : Watcher X → Option Display
  | .display d => some d
  | .other _ => none

/-- Change a display. -/
def mapDisplay (f : Display → Display) : Watcher X → Watcher X
  | .display d => .display (f d)
  | .other x => .other x

instance [Listener X Analysis] : Listener (Watcher X) Analysis where
  hear
    | .display d, n => .display (d.hear n)
    | .other x, n => .other (Listener.hear x n)
  intent
    | .display _ => none
    | .other x => (Listener.intent x).map (Order.map .other)
  learn
    | .display d, _ => .display d
    | .other x, a => .other (Listener.learn x a)

/-- Nothing is left to ask by displays. -/
def budget [Listener X Analysis] [Bounded X Analysis] : Watcher X → Nat
  | .display _ => 0
  | .other x => Bounded.budget x

theorem cost_map [Listener X Analysis] [Bounded X Analysis] (r : Request X Analysis) :
    (r.map Watcher.other).cost Watcher.budget = r.cost (Bounded.budget (L := X)) := by
  cases r <;> rfl

instance [Listener X Analysis] [Bounded X Analysis] : Bounded (Watcher X) Analysis where
  budget := budget
  budget_hear := by
    rintro (d | x) n
    · exact Nat.le_refl _
    · exact Bounded.budget_hear x n
  budget_learn := by
    rintro (d | x) r a h
    · exact nomatch h
    · obtain ⟨o, ho, he⟩ := Option.map_eq_some_iff.1 h
      cases o with
      | fail m => exact nomatch he
      | ask q =>
        injection he with he
        subst he
        rw [cost_map]
        exact Bounded.budget_learn x q a ho

/-- No listener besides the displays. -/
instance : Listener Empty Analysis := ⟨fun x _ => x, fun x => x.elim, fun x _ => x⟩

instance : Bounded Empty Analysis := ⟨fun x => x.elim, fun x => x.elim, fun x => x.elim⟩

end Watcher
end SchemaBoard
