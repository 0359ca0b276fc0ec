import SchemaBoard.Remote.Origin
import SchemaBoard.Remote.Service

/-!
# Canned answers

A service that gives the answers it was told to, one after another, and takes down what it is asked.
With no answer left it does not know what it is asked for.
-/
namespace SchemaBoard.Remote

/-- An answer: a status, a body, or highlighted code that needs no decoding. -/
inductive CannedAnswer where
  | status (code : Nat)
  | body (text : String)
  | markup (html : String)
  deriving DecidableEq, Repr

/-- What a service was asked. -/
inductive Call where
  | analyse (name : String) (bytes : Nat)
  | highlight (r : HighlightRequest)
  deriving DecidableEq, Repr

namespace CannedAnswer

/-- The answer of a service that does not know what it is asked for. -/
def unknown : CannedAnswer := .status 404

def analysis (url : String) : CannedAnswer → Except Reply.Failure Analysis
  | .status code => .error (.status url code)
  | .body text => Reply.decodeAnalysis url text
  | .markup _ => .error (.status url 404)

def highlight (url : String) : CannedAnswer → Except Reply.Failure String
  | .status code => .error (.status url code)
  | .body text => Reply.decodeHighlight url text
  | .markup html => .ok html

end CannedAnswer

structure Canned where
  origin : Origin
  analyses : List CannedAnswer := []
  highlights : List CannedAnswer := []
  /-- What was asked, the latest first. -/
  calls : List Call := []

namespace Canned

def analyse (c : Canned) (f : Intake.File) : Except Reply.Failure Analysis × Canned :=
  ((c.analyses.headD .unknown).analysis c.origin.analyseUrl,
    { c with
      analyses := c.analyses.tail
      calls := .analyse f.name f.contents.size :: c.calls })

def highlight (c : Canned) (r : HighlightRequest) : Except Reply.Failure String × Canned :=
  ((c.highlights.headD .unknown).highlight c.origin.highlightUrl,
    { c with highlights := c.highlights.tail, calls := .highlight r :: c.calls })

def service : Service Canned := ⟨analyse, highlight⟩

end Canned
end SchemaBoard.Remote
