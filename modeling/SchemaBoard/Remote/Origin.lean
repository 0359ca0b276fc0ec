import SchemaBoard.Text.Blank

/-!
# Where the service is

The service is reached under a base address, without white space around it and without strokes at
its end, so that the paths of its two operations join on with one stroke.
-/
namespace SchemaBoard.Remote

inductive OriginError where
  | missing (name : String)
  | invalid (url : String)
  deriving DecidableEq, Repr

def OriginError.message : OriginError → String
  | .missing name => "environment variable " ++ name ++ " is not set"
  | .invalid url => "invalid API base URL '" ++ url ++ "': expected http:// or https://"

structure Origin where
  base : String
  /-- How long an answer is waited for, in thousandths of a second. -/
  timeout : Nat
  deriving DecidableEq, Repr

/-- The variable that names the base address. -/
def baseVariable : String := "PRISMA_API_URL"

def defaultTimeout : Nat := 10000

def hasScheme (cs : List Char) : Bool :=
  "http://".toList.isPrefixOf cs || "https://".toList.isPrefixOf cs

/-- A base address as it is kept. -/
def normalize (url : List Char) : List Char := Text.dropEndWhile (· = '/') (Text.trim url)

namespace Origin

def ofUrl (url : String) : Except OriginError Origin :=
  let base := normalize url.toList
  if hasScheme base then .ok ⟨String.ofList base, defaultTimeout⟩ else .error (.invalid url)

/-- The origin that variables name; one of white space only names none. -/
def ofVariables (lookup : String → Option String) : Except OriginError Origin :=
  match lookup baseVariable with
  | some url => if (Text.trim url.toList).isEmpty then .error (.missing baseVariable) else ofUrl url
  | none => .error (.missing baseVariable)

def withTimeout (o : Origin) (timeout : Nat) : Origin := { o with timeout := timeout }

def analyseUrl (o : Origin) : String := o.base ++ "/api/v1/visualise"

def highlightUrl (o : Origin) : String := o.base ++ "/api/v1/code_highlight"

end Origin
end SchemaBoard.Remote
