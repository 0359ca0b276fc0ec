/-!
# Kinds of elements

An element is known by its name and by the vocabulary the name belongs to. The sets of names below
are those that the rules for growing a tree of elements speak of. Names are in lower case
throughout.
-/
namespace SchemaBoard.Html

inductive Vocabulary where
  | html | svg | math
  deriving DecidableEq, Repr

structure Kind where
  vocabulary : Vocabulary
  name : String
  deriving DecidableEq, Repr

namespace Kind

def isOneOf (names : List String) (k : Kind) : Bool :=
  k.vocabulary = .html && names.contains k.name

def isNamed (name : String) (k : Kind) : Bool := k.vocabulary = .html && k.name = name

/-- Elements of formulas inside which text is read as outside. -/
def holdsText (k : Kind) : Bool :=
  k.vocabulary = .math && ["mi", "mo", "mn", "ms", "mtext"].contains k.name

/-- Elements of drawings inside which all markup is read as outside. -/
def holdsMarkup (k : Kind) : Bool :=
  k.vocabulary = .svg && ["foreignobject", "desc", "title"].contains k.name

/-- Elements that a search for an open element does not pass. -/
def endsScope (k : Kind) : Bool :=
  k.isOneOf ["applet", "caption", "html", "marquee", "object", "select", "table", "td", "template",
    "th"] || k.holdsText || k.holdsMarkup

def endsListScope (k : Kind) : Bool := k.endsScope || k.isOneOf ["ol", "ul"]

def endsButtonScope (k : Kind) : Bool := k.endsScope || k.isOneOf ["button"]

def endsTableScope (k : Kind) : Bool := k.isOneOf ["html", "table", "template"]

def isRowGroupContext (k : Kind) : Bool :=
  k.isOneOf ["html", "tbody", "template", "tfoot", "thead"]

def isRowContext (k : Kind) : Bool := k.isOneOf ["html", "template", "tr"]

def isHeading (k : Kind) : Bool := k.isOneOf ["h1", "h2", "h3", "h4", "h5", "h6"]

def isCell (k : Kind) : Bool := k.isOneOf ["td", "th"]

/-- Elements before which, when they are the innermost open one, misplaced content goes. -/
def isTablePart (k : Kind) : Bool := k.isOneOf ["table", "tbody", "tfoot", "thead", "tr"]

def impliedNames : List String :=
  ["dd", "dt", "li", "optgroup", "option", "p", "rb", "rp", "rt", "rtc"]

/-- Elements whose closing tag may be left out. -/
def isImplied (k : Kind) : Bool := k.isOneOf impliedNames

def isImpliedIn (k : Kind) : Bool :=
  k.isOneOf (impliedNames ++ ["caption", "colgroup", "tbody", "td", "tfoot", "th", "thead", "tr"])

/-- Elements that a closing tag of another name does not close. -/
def isSpecial (k : Kind) : Bool :=
  k.isOneOf ["address", "applet", "area", "article", "aside", "base", "basefont", "bgsound",
    "blockquote", "body", "br", "button", "caption", "center", "col", "colgroup", "dd", "details",
    "dir", "div", "dl", "dt", "embed", "fieldset", "figcaption", "figure", "footer", "form", "frame",
    "frameset", "h1", "h2", "h3", "h4", "h5", "h6", "head", "header", "hgroup", "hr", "html",
    "iframe", "img", "input", "isindex", "li", "link", "listing", "main", "marquee", "menu", "meta",
    "nav", "noembed", "noframes", "noscript", "object", "ol", "p", "param", "plaintext", "pre",
    "script", "search", "section", "select", "source", "style", "summary", "table", "tbody", "td",
    "template", "textarea", "tfoot", "th", "thead", "title", "tr", "track", "ul", "wbr", "xmp"]

end Kind

/-- What an opening tag asks for in running content. -/
inductive Opening where
  | root | misplaced | metadata | title | rawMetadata | script | template
  | block | heading | preformatted | form | listItem | termItem | plaintext | button
  | anchor | formatting | unbroken | plugin | table | leaf | input | empty | rule | textarea
  | example | rawText | select | option | optionGroup | rubyBase | rubyText | math | drawing | other
  deriving DecidableEq, Repr

/-- The names that ask for each of them. -/
def openings : List (Opening × List String) :=
  [(.root, ["html"]),
   (.misplaced, ["body", "caption", "col", "colgroup", "frame", "frameset", "head", "tbody", "td",
     "tfoot", "th", "thead", "tr"]),
   (.metadata, ["base", "basefont", "bgsound", "link", "meta"]),
   (.title, ["title"]),
   (.rawMetadata, ["noframes", "style"]),
   (.script, ["script"]),
   (.template, ["template"]),
   (.block, ["address", "article", "aside", "blockquote", "center", "details", "dialog", "dir",
     "div", "dl", "fieldset", "figcaption", "figure", "footer", "header", "hgroup", "main", "menu",
     "nav", "ol", "p", "search", "section", "summary", "ul"]),
   (.heading, ["h1", "h2", "h3", "h4", "h5", "h6"]),
   (.preformatted, ["listing", "pre"]),
   (.form, ["form"]),
   (.listItem, ["li"]),
   (.termItem, ["dd", "dt"]),
   (.plaintext, ["plaintext"]),
   (.button, ["button"]),
   (.anchor, ["a"]),
   (.formatting, ["b", "big", "code", "em", "font", "i", "s", "small", "strike", "strong", "tt",
     "u"]),
   (.unbroken, ["nobr"]),
   (.plugin, ["applet", "marquee", "object"]),
   (.table, ["table"]),
   (.leaf, ["area", "br", "embed", "image", "img", "keygen", "wbr"]),
   (.input, ["input"]),
   (.empty, ["param", "source", "track"]),
   (.rule, ["hr"]),
   (.textarea, ["textarea"]),
   (.example, ["xmp"]),
   (.rawText, ["iframe", "noembed", "noscript"]),
   (.select, ["select"]),
   (.option, ["option"]),
   (.optionGroup, ["optgroup"]),
   (.rubyBase, ["rb", "rtc"]),
   (.rubyText, ["rp", "rt"]),
   (.math, ["math"]),
   (.drawing, ["svg"])]

def Opening.of (name : String) : Opening :=
  match openings.find? (·.2.contains name) with
  | some (o, _) => o
  | none => .other

/-- What a closing tag asks for in running content. -/
inductive Closing where
  | misplaced | template | block | form | paragraph | listItem | termItem | heading | formatting
  | plugin | lineBreak | other
  deriving DecidableEq, Repr

def closings : List (Closing × List String) :=
  [(.misplaced, ["body", "html"]),
   (.template, ["template"]),
   (.block, ["address", "article", "aside", "blockquote", "button", "center", "details", "dialog",
     "dir", "div", "dl", "fieldset", "figcaption", "figure", "footer", "header", "hgroup", "listing",
     "main", "menu", "nav", "ol", "pre", "search", "section", "select", "summary", "ul"]),
   (.form, ["form"]),
   (.paragraph, ["p"]),
   (.listItem, ["li"]),
   (.termItem, ["dd", "dt"]),
   (.heading, ["h1", "h2", "h3", "h4", "h5", "h6"]),
   (.formatting, ["a", "b", "big", "code", "em", "font", "i", "nobr", "s", "small", "strike",
     "strong", "tt", "u"]),
   (.plugin, ["applet", "marquee", "object"]),
   (.lineBreak, ["br"])]

def Closing.of (name : String) : Closing :=
  match closings.find? (·.2.contains name) with
  | some (c, _) => c
  | none => .other

end SchemaBoard.Html
