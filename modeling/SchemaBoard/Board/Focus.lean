/-!
# The focus of a board

A card is collapsed, a table or code. At most one model is in focus, and its card alone is not
collapsed: the mode and the width of every card follow from the focus.
-/
namespace SchemaBoard

inductive Mode where
  | collapsed | table | code
  deriving DecidableEq, Repr

namespace Mode

def isExpanded : Mode → Bool
  | .collapsed => false
  | .table => true
  | .code => true

def name : Mode → String
  | .collapsed => "collapsed"
  | .table => "table"
  | .code => "code"

def all : List Mode := [.collapsed, .table, .code]

def ofName? (s : String) : Option Mode := all.find? (·.name = s)

end Mode

/-- The buttons of a card. -/
inductive Control where
  | collapse | table | code
  deriving DecidableEq, Repr

namespace Control

def all : List Control := [.collapse, .table, .code]

/-- The mode that a control leads to. -/
def target : Control → Mode
  | .collapse => .collapsed
  | .table => .table
  | .code => .code

def label : Control → String
  | .collapse => "Collapse"
  | .table => "Table"
  | .code => "Code"

/-- The control that leads to a mode. -/
def ofMode : Mode → Control
  | .collapsed => .collapse
  | .table => .table
  | .code => .code

@[simp] theorem target_ofMode (m : Mode) : (ofMode m).target = m := by cases m <;> rfl

end Control

/-- The model in focus and the mode of its card. -/
structure Focus where
  id : String
  mode : Mode
  deriving DecidableEq, Repr

/-- Use a control of a card: collapsing takes the focus from this card only, every other control
gives it the focus. -/
def press (focus : Option Focus) (id : String) (c : Control) : Option Focus :=
  match c.target with
  | .collapsed => focus.filter (·.id ≠ id)
  | m => some ⟨id, m⟩

def modeOf (focus : Option Focus) (id : String) : Mode :=
  match focus with
  | some f => if f.id = id then f.mode else .collapsed
  | none => .collapsed

inductive Width where
  | wide | narrow
  deriving DecidableEq, Repr

namespace Width

def name : Width → String
  | .wide => "wide"
  | .narrow => "narrow"

/-- The columns taken, of twelve. -/
def columns : Width → Nat
  | .wide => 6
  | .narrow => 2

/-- The card in focus is wide. -/
def of (focus : Option Focus) (id : String) : Width :=
  match focus with
  | some f => if f.id = id then .wide else .narrow
  | none => .narrow

end Width

@[simp] theorem modeOf_none (id : String) : modeOf none id = .collapsed := rfl

@[simp] theorem modeOf_self (id : String) (m : Mode) : modeOf (some ⟨id, m⟩) id = m := by
  simp [modeOf]

end SchemaBoard
