import SchemaBoard.Json.Format.Convert
import SchemaBoard.Json.Reader
import SchemaBoard.Reply.Violation
import SchemaBoard.Schema.Format

/-!
# Decoding replies

The service is not trusted. A body is read as JSON, held against its shape, and only then converted;
a failure says which of the three steps went wrong, and every finding has its place.
-/
namespace SchemaBoard.Reply

open Json

/-- Why no answer came: the request could not be sent or was not answered, the body broke off, there
is no such address, or anything else that there may be to say of it. -/
inductive Outage where
  | sending (place : String)
  | body
  | address
  | other (reason : String)
  deriving DecidableEq, Repr

def Outage.message : Outage → String
  | .sending place => "error sending request for url (" ++ place ++ ")"
  | .body => "error decoding response body"
  | .address => "builder error"
  | .other reason => reason

/-- What is wrong at a place of a body. -/
inductive Objection where
  | breach (b : Breach)
  | mismatch (m : Mismatch)
  deriving Repr

def Objection.message : Objection → String
  | .breach b => b.message
  | .mismatch m => m.message

structure Finding where
  path : Path
  objection : Objection
  deriving Repr

def Finding.place (f : Finding) : String := pointer f.path

def Finding.message (f : Finding) : String := f.objection.message

def Finding.text (f : Finding) : String := f.place ++ ": " ++ f.message

inductive Failure where
  | outage (url : String) (o : Outage)
  | status (url : String) (code : Nat)
  | notJson (url : String) (fault : Fault)
  | misshapen (url : String) (findings : List Finding)
  deriving Repr

namespace Failure

def message : Failure → String
  | .outage url o => "request to " ++ url ++ " failed: " ++ o.message
  | .status url code => url ++ " answered with status " ++ toString code
  | .notJson url fault => url ++ " returned invalid JSON: " ++ fault.message
  | .misshapen url findings =>
    url ++ " returned an unexpected body with " ++ toString findings.length ++ " error(s)"

/-- Whether there was no usable answer at all. -/
def isNetwork : Failure → Bool
  | .outage _ _ | .status _ _ => true
  | .notJson _ _ | .misshapen _ _ => false

/-- Whether there was an answer with an unusable body. -/
def isInvalidResponse (f : Failure) : Bool := !f.isNetwork

end Failure

/-- All findings against a shape; none if the value keeps it. -/
def validate (shape : Shape) (v : Value) : List Finding :=
  (shape.violations [] v).map fun x => ⟨x.path, .breach x.breach⟩

/-- Read a body, hold it against a shape, and convert it to a form. -/
def decode (shape : Shape) (form : Format) (url body : String) : Except Failure form.Carrier :=
  match Value.parse body with
  | .error fault => .error (.notJson url fault)
  | .ok v =>
    match validate shape v with
    | [] =>
      match form.ofValue v with
      | .ok a => .ok a
      | .error m => .error (.misshapen url [⟨[], .mismatch m⟩])
    | f :: fs => .error (.misshapen url (f :: fs))

/-- The analysis in a body. -/
def decodeAnalysis (url body : String) : Except Failure Analysis :=
  (decode analysisShape Analysis.form url body).map Analysis.ofTuple

/-- The highlighted code in a body. -/
def decodeHighlight (url body : String) : Except Failure String :=
  (decode highlightShape highlightReplyForm url body).map fun ((html, ()), ()) => html

end SchemaBoard.Reply
