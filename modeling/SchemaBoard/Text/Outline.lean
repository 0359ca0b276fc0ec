import SchemaBoard.Text.Quoted

/-!
# Outlines

A value in words, for people who look for faults: records with their names and fields, lists, and
values that may be missing.
-/
namespace SchemaBoard.Text.Outline

def ofFields (fields : List (String × String)) : String :=
  ", ".intercalate (fields.map fun f => f.1 ++ ": " ++ f.2)

def record (name : String) (fields : List (String × String)) : String :=
  name ++ " \x7b " ++ ofFields fields ++ " \x7d"

def list (f : α → String) (items : List α) : String :=
  "[" ++ ", ".intercalate (items.map f) ++ "]"

def optional (f : α → String) : Option α → String
  | some a => "Some(" ++ f a ++ ")"
  | none => "None"

def flag (b : Bool) : String := if b then "true" else "false"

end SchemaBoard.Text.Outline
