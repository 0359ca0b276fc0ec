import SchemaBoard.Remote.Address
import SchemaBoard.Remote.Client
import SchemaBoard.Remote.MediaType

/-!
# A server on the wire

A client with one server in the world, which gives the answers it was told to, one after another,
and takes down what it is sent. What comes back may be nothing at all, a status that is no success,
a body that breaks off, or a body, which is made text by its encoding. No answer points elsewhere,
and nothing is encrypted.
-/
namespace SchemaBoard.Remote

open Reply (Outage)

/-- What comes back for a request. -/
inductive WireAnswer where
  | hangUp
  | stall
  /-- A status and a body, of which so many bytes are announced but missing. -/
  | full (status : Nat) (mediaType : Option String) (body : List UInt8) (missing : Nat)
  deriving DecidableEq, Repr

/-- What is sent, and to which path. -/
inductive Sent where
  | form (target : String) (partHead : String) (part : ByteArray)
  | json (target : String) (body : String)

/-- The media types that a request takes. -/
def acceptedTypes : String := "*/*"

def Sent.target : Sent → String
  | .form t _ _ => t
  | .json t _ => t

def Sent.mediaType : Sent → String
  | .form _ _ _ => "multipart/form-data"
  | .json _ _ => "application/json"

/-- A name between quotes in the head of a part. -/
def escapeName (cs : List Char) : List Char :=
  cs.flatMap fun c => if ['\x22', '\\', '\r', '\n'].contains c then ['\\', c] else [c]

def partHead (part fileName : String) : String :=
  "Content-Disposition: form-data; name=\"" ++ part ++ "\"; filename=\""
    ++ String.ofList (escapeName fileName.toList) ++ "\""

/-- A message as it is sent. -/
def Message.sent (target : String) : Message → Sent
  | .form part fileName contents => .form target (partHead part fileName) contents
  | .json text => .json target text

namespace WireAnswer

/-- The answer of a server that does not know what it is asked for. -/
def unknown : WireAnswer := .full 404 none [] 0

/-- A status that announces another, or is no status at all, is no answer. -/
def isFinal (status : Nat) : Bool := status = 101 || 200 ≤ status && status < 1000

/-- A success without content has no body, whatever follows. -/
def noContent : Nat := 204

/-- What a body is as text, where `decode` reads a whole one by its media type. -/
def text (decode : Option String → List UInt8 → String) (status : Nat) (mediaType : Option String)
    (body : List UInt8) (missing : Nat) : Except Outage String :=
  if status = noContent then .ok ""
  else if 0 < missing then .error .body
  else .ok (decode mediaType body)

/-- What is reported of an answer to a request that was sent to an address. -/
def receipt (decode : Option String → List UInt8 → String) (address : String) :
    WireAnswer → Receipt
  | .hangUp | .stall => .nothing (.sending address)
  | .full status mediaType body missing =>
    if isFinal status then .answered status (text decode status mediaType body missing)
    else .nothing (.sending address)

end WireAnswer

/-- A server, with the answers that it will give and what it was sent. -/
structure Wire where
  origin : Origin
  /-- The name of the host that is there; no other is. -/
  host : String
  /-- The number under which it answers, unless it is the usual one of the scheme. -/
  portNumber : Option Nat := none
  /-- Whether the host answers at all. -/
  isUp : Bool := true
  answers : List WireAnswer := []
  /-- What was sent, the latest first. -/
  sent : List Sent := []
  /-- The decoders that need a table, by their labels. -/
  decoder? : String → Option (List UInt8 → List Char) := fun _ => none
  /-- The form for the wire of a host name that has more than letters, digits and signs of ASCII, or
  is in such a form already. It may be refused. -/
  wireName? : String → Option String := some

namespace Wire

def reaches (w : Wire) (a : Address) : Bool :=
  w.isUp && a.host = w.host && a.portNumber = w.portNumber

/-- Send a message and wait for the answer. -/
def post (w : Wire) (url : String) (m : Message) : Receipt × Wire :=
  match Address.parse? w.wireName? url with
  | none => (.nothing .address, w)
  | some a =>
    if w.reaches a then
      ((w.answers.headD .unknown).receipt (MediaType.decode w.decoder?) a.print,
        { w with answers := w.answers.tail, sent := m.sent a.target :: w.sent })
    else (.nothing (.sending a.print), w)

def client : Client Wire := ⟨post⟩

/-- The service at the origin that a server is meant for. -/
def service : Service Wire where
  analyse w f := client.analyse w.origin w f
  highlight w r := client.highlight w.origin w r

end Wire
end SchemaBoard.Remote
