/-!
# Clean markup

What a cleaned text holds: text, line breaks and four kinds of elements, with at most a class on
each tag. `render` writes it down; every character that could be taken for markup is written as a
reference.
-/
namespace SchemaBoard.Html

inductive KeptTag where
  | div | span | pre | code
  deriving DecidableEq, Repr

def KeptTag.name : KeptTag → String
  | .div => "div"
  | .span => "span"
  | .pre => "pre"
  | .code => "code"

inductive Markup where
  | text (chars : List Char)
  | lineBreak (label : Option String)
  | element (tag : KeptTag) (label : Option String) (children : List Markup)
  deriving Repr

namespace Markup

def escapeTextChar (c : Char) : List Char :=
  if c = '&' then "&amp;".toList
  else if c = '<' then "&lt;".toList
  else if c = '>' then "&gt;".toList
  else if c = '\u00a0' then "&nbsp;".toList
  else [c]

def escapeValueChar (c : Char) : List Char :=
  if c = '\x22' then "&quot;".toList else escapeTextChar c

def escapeText (cs : List Char) : List Char := cs.flatMap escapeTextChar

def escapeValue (cs : List Char) : List Char := cs.flatMap escapeValueChar

/-- An opening tag with its class, if it has one. -/
def openingTag (name : String) (label : Option String) : List Char :=
  match label with
  | none => '<' :: name.toList ++ ['>']
  | some l => '<' :: name.toList ++ " class=\"".toList ++ escapeValue l.toList ++ "\">".toList

def closingTag (name : String) : List Char := "</".toList ++ name.toList ++ ['>']

mutual

def render : Markup → List Char
  | .text chars => escapeText chars
  | .lineBreak label => openingTag "br" label
  | .element tag label children =>
    openingTag tag.name label ++ renderAll children ++ closingTag tag.name

def renderAll : List Markup → List Char
  | [] => []
  | m :: rest => render m ++ renderAll rest

end

@[simp] theorem renderAll_nil : renderAll [] = [] := by simp [renderAll]

@[simp] theorem renderAll_cons (m : Markup) (rest : List Markup) :
    renderAll (m :: rest) = render m ++ renderAll rest := by simp [renderAll]

end Markup
end SchemaBoard.Html
