import SchemaBoard.Json.Printer
import SchemaBoard.Reply.Shape

/-!
# Violations of a shape

All violations of a shape by a value, each with the place of the value that breaks the rule: first
those of the value itself, then those of its members in the order of the shape or of its items in
their order.
-/
namespace SchemaBoard.Reply

open Json

inductive Segment where
  | member (name : String)
  | item (index : Nat)
  deriving DecidableEq, Repr

/-- A place inside a value, from the outside in. -/
abbrev Path := List Segment

def Segment.token : Segment → String
  | .member name =>
    String.ofList (name.toList.flatMap fun c =>
      if c = '~' then ['~', '0'] else if c = '/' then ['~', '1'] else [c])
  | .item index => toString index

/-- A place written as a JSON Pointer. -/
def pointer (p : Path) : String := String.join (p.map fun s => "/" ++ s.token)

inductive Breach where
  | type (v : Value) (expected : String)
  | missing (name : String)
  | minimum (v : Value)
  deriving Repr

def Breach.message : Breach → String
  | .type v expected => v.print ++ " is not of type \"" ++ expected ++ "\""
  | .missing name => (Value.string name).print ++ " is a required property"
  | .minimum v => v.print ++ " is less than the minimum of 0"

structure Violation where
  path : Path
  breach : Breach
  deriving Repr

def hasMember (name : String) (members : List (String × Value)) : Bool :=
  members.any (·.1 = name)

/-- The violations at the value itself; `place` is the way to it. -/
def Shape.ownViolations (shape : Shape) (place : Path) (v : Value) : List Violation :=
  let typed := if shape.hasType v then [] else [⟨place, .type v shape.typeName⟩]
  match shape, v with
  | .count, .number n => typed ++ if n.isNegative then [⟨place, .minimum v⟩] else []
  | .record required _, .object members =>
    typed ++ (required.filter fun name => !hasMember name members).map
      fun name => ⟨place, .missing name⟩
  | _, _ => typed

/-- Collect over the items of a list, with their indices. -/
def collectItems (collect : Nat → Value → List Violation) : Nat → List Value → List Violation
  | _, [] => []
  | n, v :: rest => collect n v ++ collectItems collect (n + 1) rest

mutual

/-- All violations of a shape. -/
def Shape.violations (shape : Shape) (place : Path) (v : Value) : List Violation :=
  shape.ownViolations place v ++
    match shape, v with
    | .list item, .array vs =>
      collectItems (fun n w => item.violations (place ++ [.item n]) w) 0 vs
    | .record _ properties, .object members => properties.violations place members
    | _, _ => []

def Properties.violations (properties : Properties) (place : Path)
    (members : List (String × Value)) : List Violation :=
  match properties with
  | .nil => []
  | .cons name shape rest =>
    (match members.lookup name with
      | some v => shape.violations (place ++ [.member name]) v
      | none => []) ++ rest.violations place members

end

end SchemaBoard.Reply
