import SchemaBoard.Intake.File

/-!
# Reading a file from a folder

A small tree of folders: a folder that holds files and one empty folder, inside a working folder of
which nothing else is known. A path is walked piece by piece; only the end of the walk may be a
file.
-/
namespace SchemaBoard.Intake

structure Folder where
  name : String
  emptyFolder : String
  files : List (String × String)

inductive ReadFault where
  | notFound
  | notAFolder
  | isAFolder
  | nameTooLong
  | nulInName
  deriving DecidableEq, Repr

def ReadFault.message : ReadFault → String
  | .notFound => "No such file or directory (os error 2)"
  | .notAFolder => "Not a directory (os error 20)"
  | .isAFolder => "Is a directory (os error 21)"
  | .nameTooLong => "File name too long (os error 36)"
  | .nulInName => "file name contained an unexpected NUL byte"

/-- A file that could not be read: its path and the reason. -/
structure ReadFailure where
  path : String
  fault : ReadFault
  deriving DecidableEq, Repr

def ReadFailure.message (f : ReadFailure) : String :=
  "cannot read " ++ f.path ++ ": " ++ f.fault.message

/-- Where a walk stands: some levels outside the working folder, in it, in the folder, in the empty
folder inside, or at a file. -/
inductive Spot where
  | outside
  | work
  | folder
  | inner
  | file (text : String)

def greatestName : Nat := 255

def greatestPath : Nat := 4095

/-- Enter a name. -/
def Folder.enter (f : Folder) (name : String) (s : Spot) : Except ReadFault Spot :=
  if greatestName < name.utf8ByteSize then .error .nameTooLong
  else
    match s with
    | .work => if name = f.name then .ok .folder else .error .notFound
    | .folder =>
      if name = f.emptyFolder then .ok .inner
      else
        match f.files.reverse.lookup name with
        | some text => .ok (.file text)
        | none => .error .notFound
    | _ => .error .notFound

/-- Take one step of a walk; nothing leads on from a file. -/
def Folder.step (f : Folder) (s : Spot) (piece : List Char) : Except ReadFault Spot :=
  match s with
  | .file _ => .error .notAFolder
  | s =>
    if piece = [] || piece = ['.'] then .ok s
    else if piece = ['.', '.'] then
      match s with
      | .inner => .ok .folder
      | .folder => .ok .work
      | _ => .ok .outside
    else f.enter (String.ofList piece) s

def Folder.walk (f : Folder) (path : List Char) : Except ReadFault Spot :=
  let start := if path.head? = some '/' then Spot.outside else .work
  (pieces path).foldlM f.step start

/-- A path seen from the folder; one that begins with a stroke stands for itself. -/
def Folder.join (f : Folder) (path : String) : String :=
  if path.toList.head? = some '/' then path else f.name ++ "/" ++ path

/-- Read the file at a path seen from the folder. -/
def Folder.read (f : Folder) (path : String) : Except ReadFailure File :=
  let full := f.join path
  let fail (r : ReadFault) : Except ReadFailure File := .error ⟨full, r⟩
  if full.toList.contains '\x00' then fail .nulInName
  else if greatestPath < full.utf8ByteSize then fail .nameTooLong
  else
    match f.walk full.toList with
    | .error r => fail r
    | .ok (.file text) =>
      .ok (.ofText (((fileName? full.toList).map String.ofList).getD full) text)
    | .ok _ => fail .isAFolder

end SchemaBoard.Intake
