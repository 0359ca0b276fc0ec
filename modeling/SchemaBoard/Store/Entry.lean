/-!
# Entries

What is kept under a tag: the outcome of an operation, a value or the text of a failure, with the
number under which it was accepted. A notice tells listeners of an entry that has landed.
-/
namespace SchemaBoard

inductive Outcome (V : Type) where
  | success (value : V)
  | failure (message : String)
  deriving DecidableEq, Repr

namespace Outcome

variable {V : Type}

def value? : Outcome V → Option V
  | .success v => some v
  | .failure _ => none

def failure? : Outcome V → Option String
  | .success _ => none
  | .failure m => some m

def isSuccess : Outcome V → Bool
  | .success _ => true
  | .failure _ => false

end Outcome

structure Entry (V : Type) where
  sequence : Nat
  outcome : Outcome V
  deriving DecidableEq, Repr

structure Notice (V : Type) where
  tag : String
  entry : Entry V
  deriving DecidableEq, Repr

end SchemaBoard
