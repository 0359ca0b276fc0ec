import SchemaBoard.Intake.Path

/-!
# Schema files

A file is taken in if its name has the extension of schema files, in any ASCII case, and its size is
within the limit. The name is looked at first.
-/
namespace SchemaBoard.Intake

structure File where
  name : String
  contents : ByteArray

inductive Refusal where
  | extension (name : String)
  | size (name : String) (bytes : Nat) (limit : Nat)
  deriving DecidableEq, Repr

def Refusal.message : Refusal → String
  | .extension name => name ++ " is not a .prisma file"
  | .size name bytes limit =>
    name ++ " is " ++ toString bytes ++ " bytes, limit is " ++ toString limit

/-- The extension of schema files. -/
def schemaExtension : String := "prisma"

/-- The greatest size of a file in bytes: three times 2 ^ 20. -/
def sizeLimit : Nat := 3 * 1024 * 1024

def hasSchemaExtension (name : String) : Bool :=
  match pathExtension? name.toList with
  | none => false
  | some e => e.map Char.toLower = schemaExtension.toList

def File.check (f : File) : Except Refusal Unit :=
  if !hasSchemaExtension f.name then .error (.extension f.name)
  else if sizeLimit < f.contents.size then .error (.size f.name f.contents.size sizeLimit)
  else .ok ()

def File.isAccepted (f : File) : Bool := f.check.isOk

/-- A file that holds a text. -/
def File.ofText (name text : String) : File := ⟨name, text.toUTF8⟩

/-- A file of so many blanks. -/
def File.ofSize (name : String) (size : Nat) : File := .ofText name ("".pushn ' ' size)

end SchemaBoard.Intake
