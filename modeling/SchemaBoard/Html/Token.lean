/-!
# Tokens of an HTML text

A text is read as characters, opening tags and closing tags. Comments and stretches of markup that
stand for nothing are tokens as well, since they part the characters on their two sides.
-/
namespace SchemaBoard.Html

structure Attribute where
  name : String
  value : String
  deriving DecidableEq, Repr

structure Tag where
  name : String
  attributes : List Attribute := []
  selfClosing : Bool := false
  deriving DecidableEq, Repr

inductive Token where
  | text (chars : List Char)
  | opening (tag : Tag)
  | closing (name : String)
  | comment
  | void
  deriving DecidableEq, Repr

/-- How the characters that come next are read: as markup, as text that only the closing tag of the
element ends (with or without character references), as a script, or as text to the very end. -/
inductive Content where
  | data
  | escapable (name : String)
  | raw (name : String)
  | script
  | plain
  deriving DecidableEq, Repr

end SchemaBoard.Html
