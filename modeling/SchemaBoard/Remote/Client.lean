import SchemaBoard.Json.Printer
import SchemaBoard.Remote.Origin
import SchemaBoard.Remote.Service

/-!
# The client

Between us and the service stands a client: it posts a message to an address and reports what came
of it. How it reads the address, how it reaches the host, which status it takes for the final one,
and how it makes text of a body, is up to the client. Here is what we make of its reports.
-/
namespace SchemaBoard.Remote

open Reply (Failure Outage)

/-- What is posted: a form whose one part is a file, or JSON. -/
inductive Message where
  | form (part : String) (fileName : String) (contents : ByteArray)
  | json (text : String)

/-- The report of a client: no answer came, or a status did, with the body as a text if that could
be had. -/
inductive Receipt where
  | nothing (o : Outage)
  | answered (status : Nat) (text : Except Outage String)

/-- The client, over the state of whatever it works with. -/
structure Client (σ : Type) where
  post : σ → String → Message → Receipt × σ

/-- The name of the part that carries a schema file. -/
def partName : String := "schema"

def isSuccess (status : Nat) : Bool := 200 ≤ status && status < 300

/-- The text of a success. Of any other status the body is not looked at. -/
def Receipt.body (url : String) : Receipt → Except Failure String
  | .nothing o => .error (.outage url o)
  | .answered status text =>
    if isSuccess status then text.mapError (.outage url) else .error (.status url status)

namespace Client

variable {σ : Type}

def analyse (c : Client σ) (o : Origin) (w : σ) (f : Intake.File) :
    Except Failure Analysis × σ :=
  let url := o.analyseUrl
  let (r, w) := c.post w url (.form partName f.name f.contents)
  ((r.body url).bind (Reply.decodeAnalysis url), w)

def highlight (c : Client σ) (o : Origin) (w : σ) (r : HighlightRequest) :
    Except Failure String × σ :=
  let url := o.highlightUrl
  let (r, w) := c.post w url (.json r.toValue.print)
  ((r.body url).bind (Reply.decodeHighlight url), w)

/-- The service at an origin, as a client reaches it. -/
def service (c : Client σ) (o : Origin) : Service σ := ⟨c.analyse o, c.highlight o⟩

end Client
end SchemaBoard.Remote
