import SchemaBoard.Html.Scan
import SchemaBoard.Html.Builder.Foreign

/-!
# From a text to a tree

Tokens are read one by one, each under the content that the tree grown so far asks for.
-/
namespace SchemaBoard.Html

/-- Line ends are line feeds. -/
def lineFeeds : List Char → List Char
  | '\r' :: '\n' :: r => '\n' :: lineFeeds r
  | '\r' :: r => '\n' :: lineFeeds r
  | c :: r => c :: lineFeeds r
  | [] => []

/-- The characters of a text as they are read: without a byte order mark in front. -/
def prepare (cs : List Char) : List Char :=
  match cs with
  | '\ufeff' :: r => lineFeeds r
  | r => lineFeeds r

namespace Builder

/-- Read a token under the rules that hold, and under those that hold next while it is handed on. -/
def settle : Nat → Token → Builder → Builder
  | 0, _, b => b
  | n + 1, t, b =>
    match if b.isForeign t then b.readForeign t else b.read t with
    | .done b => b
    | .again b t => settle n t b

/-- More than the number of times a token can be handed on: each time an element is closed, or one
of the few parts of a table is opened. -/
def patience (b : Builder) : Nat := 2 * b.opened.length + 16

/-- Read one token. A line feed right behind the tag of preformatted text is left out. -/
def feed (t : Token) (b : Builder) : Builder :=
  let ready := { b with skipFeed := false }
  match t with
  | .void => ready
  | .text chars =>
    let shown := if b.skipFeed && chars.head? = some '\n' then chars.tail else chars
    if shown.isEmpty then ready else settle b.patience (.text shown) ready
  | t => settle b.patience t ready

def finish (b : Builder) : Builder :=
  match b.mode with
  | .tableText => b.release
  | _ => b

def inForeign (b : Builder) : Bool :=
  match b.opened with
  | [] => false
  | e :: _ => e.kind.vocabulary ≠ .html

/-- Read a text to its end. -/
def run (b : Builder) (cs : List Char) : Builder :=
  match _h : Scan.next? b.content b.inForeign cs with
  | none => b.finish
  | some (t, rest) => run (b.feed t) rest
termination_by cs.length
decreasing_by exact Scan.next?_length _h

end Builder

/-- The tree of a text. -/
def Dom.ofText (cs : List Char) : Dom := (Builder.start.run (prepare cs)).dom

end SchemaBoard.Html
