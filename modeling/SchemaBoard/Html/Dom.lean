import SchemaBoard.Html.Kind
import SchemaBoard.Html.Token

/-!
# A tree that can be rearranged

The nodes of a growing tree stand in an array, and their places in it are their names. A node knows
its parent and its children in order. Misnested markup moves nodes about, so nothing here says that
the nodes form a tree; `Dom.outline` in the module on cleaning reads one off.
-/
namespace SchemaBoard.Html

structure Element where
  kind : Kind
  attributes : List Attribute := []
  deriving DecidableEq, Repr

inductive Matter where
  | element (e : Element)
  | text (chars : List Char)
  deriving Repr

structure Node where
  matter : Matter
  parent : Option Nat := none
  children : Array Nat := #[]
  deriving Repr

structure Dom where
  nodes : Array Node := #[]
  deriving Repr

namespace Dom

/-- A new node that stands nowhere yet; its name is the former size. -/
def add (d : Dom) (m : Matter) : Dom := ⟨d.nodes.push { matter := m }⟩

def parent? (d : Dom) (id : Nat) : Option Nat := d.nodes[id]?.bind (·.parent)

def setParent (d : Dom) (id : Nat) (parent : Option Nat) : Dom :=
  ⟨d.nodes.modify id fun n => { n with parent := parent }⟩

def mapChildren (d : Dom) (id : Nat) (f : Array Nat → Array Nat) : Dom :=
  ⟨d.nodes.modify id fun n => { n with children := f n.children }⟩

/-- Take a node from its parent. -/
def detach (d : Dom) (id : Nat) : Dom :=
  match d.parent? id with
  | none => d
  | some p => (d.mapChildren p (·.filter (· ≠ id))).setParent id none

/-- Make a node that stands nowhere the last child of another. -/
def append (d : Dom) (parent id : Nat) : Dom :=
  (d.mapChildren parent (·.push id)).setParent id (some parent)

def insertBefore (sibling id : Nat) (children : Array Nat) : Array Nat :=
  (children.toList.flatMap fun c => if c = sibling then [id, c] else [c]).toArray

/-- Put a node that stands nowhere right before a sibling. -/
def place (d : Dom) (sibling id : Nat) : Dom :=
  match d.parent? sibling with
  | none => d
  | some p => (d.mapChildren p (insertBefore sibling id)).setParent id (some p)

/-- Give all children of one node to another. -/
def moveChildren (d : Dom) (source target : Nat) : Dom :=
  match d.nodes[source]? with
  | none => d
  | some n =>
    let moved := n.children.foldl (fun d c => d.setParent c (some target)) d
    (moved.mapChildren target (· ++ n.children)).mapChildren source fun _ => #[]

end Dom
end SchemaBoard.Html
