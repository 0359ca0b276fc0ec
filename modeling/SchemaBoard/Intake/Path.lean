/-!
# Names of files

A path is a text of pieces between strokes. Pieces that are empty or a single dot stand for nothing;
two dots lead up and are no name.
-/
namespace SchemaBoard.Intake

/-- The pieces of a path, empty ones included. -/
def pieces : List Char → List (List Char)
  | [] => [[]]
  | c :: cs =>
    if c = '/' then [] :: pieces cs
    else
      match pieces cs with
      | [] => [[c]]
      | p :: ps => (c :: p) :: ps

/-- The pieces that stand for something. -/
def steps (cs : List Char) : List (List Char) :=
  (pieces cs).filter fun p => p ≠ [] && p ≠ ['.']

/-- The last name of a path. -/
def fileName? (cs : List Char) : Option (List Char) :=
  match (steps cs).getLast? with
  | none => none
  | some p => if p = ['.', '.'] then none else some p

/-- What stands behind the last dot of a name, if anything stands before that dot. -/
def extension? (name : List Char) : Option (List Char) :=
  let tail := (name.reverse.takeWhile (· ≠ '.')).reverse
  let stem := name.take (name.length - tail.length - 1)
  if tail.length < name.length ∧ stem ≠ [] then some tail else none

/-- The extension of a path's last name. -/
def pathExtension? (cs : List Char) : Option (List Char) := (fileName? cs).bind extension?

end SchemaBoard.Intake
