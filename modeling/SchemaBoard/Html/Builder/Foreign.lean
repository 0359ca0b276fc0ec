import SchemaBoard.Html.Builder.Table

/-!
# Drawings and formulas

Inside a drawing or a formula markup is read under rules of its own, until a tag that belongs to
running content breaks out of it or an element that holds such content is entered.
-/
namespace SchemaBoard.Html.Builder

/-- Opening tags that break out of a foreign vocabulary. -/
def breakOutNames : List String :=
  ["b", "big", "blockquote", "body", "br", "center", "code", "dd", "div", "dl", "dt", "em", "embed",
   "h1", "h2", "h3", "h4", "h5", "h6", "head", "hr", "i", "img", "li", "listing", "menu", "meta",
   "nobr", "ol", "p", "pre", "ruby", "s", "small", "span", "strong", "strike", "sub", "sup", "table",
   "tt", "u", "ul", "var"]

def breaksOut (tag : Tag) : Bool :=
  breakOutNames.contains tag.name
    || (tag.name = "font" && tag.attributes.any fun a => ["color", "face", "size"].contains a.name)

/-- Whether an annotation of a formula says that it holds running content. -/
def holdsAnnotation (b : Builder) (id : Nat) : Bool :=
  match b.dom.nodes[id]? with
  | some { matter := .element e, .. } =>
    e.attributes.any fun a =>
      a.name = "encoding" && ["text/html", "application/xhtml+xml"].contains a.value.toLower
  | _ => false

/-- Whether a token is read under the foreign rules. -/
def isForeign (t : Token) (b : Builder) : Bool :=
  match b.opened with
  | [] => false
  | e :: _ =>
    if e.kind.vocabulary = .html then false
    else
      match t with
      | .text _ =>
        !(e.kind.holdsText || e.kind.holdsMarkup
          || (e.kind = ⟨.math, "annotation-xml"⟩ && b.holdsAnnotation e.id))
      | .opening tag =>
        !((e.kind.holdsText && tag.name != "mglyph" && tag.name != "malignmark")
          || e.kind.holdsMarkup
          || (e.kind = ⟨.math, "annotation-xml"⟩
            && (tag.name = "svg" || b.holdsAnnotation e.id)))
      | _ => true

/-- Close foreign elements up to one that holds running content. -/
def breakOut (b : Builder) : Builder :=
  b.popTo fun k => k.vocabulary = .html || k.holdsText || k.holdsMarkup

/-- What a closing tag in foreign content closes: nothing, an element with all in it (what stays
open is given), or what the rules of the mode say. -/
inductive ForeignEnd where
  | nothing
  | element (outer : List OpenElement)
  | byMode

def foreignEnd (name : String) (first : Bool) : List OpenElement → ForeignEnd
  | [] | [_] => .nothing
  | e :: rest =>
    if !first && e.kind.vocabulary = .html then .byMode
    else if e.kind.name = name then .element rest
    else foreignEnd name false rest

/-- Read a token in foreign content. -/
def readForeign (t : Token) (b : Builder) : Outcome :=
  match t with
  | .text chars => .done (b.addText (chars.map fun c => if c = '\x00' then '\ufffd' else c))
  | .comment | .void => .done b
  | .opening tag =>
    if breaksOut tag then b.breakOut.read t
    else .done (b.openForeign b.currentKind.vocabulary tag)
  | .closing name =>
    if name = "br" || name = "p" then b.breakOut.read t
    else
      match foreignEnd name true b.opened with
      | .nothing => .done b
      | .element outer => .done { b with opened := outer }
      | .byMode => b.read t

end SchemaBoard.Html.Builder
