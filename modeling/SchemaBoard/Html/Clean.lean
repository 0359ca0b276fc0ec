import SchemaBoard.Html.Builder.Run
import SchemaBoard.Html.Markup

/-!
# Cleaning

Of the tree of an untrusted text only the kept tags and the text are left. An element that is not
kept is replaced by what is in it; scripts, styles, templates and all that belongs to a drawing or a
formula vanish with their content.
-/
namespace SchemaBoard.Html

/-- Names that belong to drawings. -/
def drawingNames : List String :=
  ["a", "animate", "circle", "defs", "desc", "discard", "ellipse", "filter", "g", "image", "line",
   "marker", "mask", "metadata", "mpath", "path", "pattern", "polygon", "polyline", "rect", "script",
   "set", "stop", "style", "svg", "switch", "symbol", "text", "title", "tspan", "use", "view"]

/-- Names that belong to formulas. -/
def formulaNames : List String :=
  ["abs", "and", "annotation", "annotation-xml", "apply", "approx", "arccos", "arccosh", "arccot",
   "arccoth", "arccsc", "arccsch", "arcsec", "arcsech", "arcsin", "arcsinh", "arctan", "arctanh",
   "arg", "bind", "bvar", "card", "cartesianproduct", "cbytes", "ceiling", "cerror", "ci", "cn",
   "codomain", "complexes", "compose", "condition", "conjugate", "cos", "cosh", "cot", "coth", "cs",
   "csc", "csch", "csymbol", "curl", "declare", "degree", "determinant", "diff", "divergence",
   "divide", "domain", "domainofapplication", "emptyset", "eq", "equivalent", "eulergamma", "exists",
   "exp", "exponentiale", "factorial", "factorof", "false", "floor", "fn", "forall", "gcd", "geq",
   "grad", "gt", "ident", "image", "imaginary", "imaginaryi", "implies", "in", "infinity", "int",
   "integers", "intersect", "interval", "inverse", "lambda", "laplacian", "lcm", "leq", "limit",
   "list", "ln", "log", "logbase", "lowlimit", "lt", "maction", "maligngroup", "malignmark", "math",
   "matrix", "matrixrow", "max", "mean", "median", "menclose", "merror", "mfenced", "mfrac", "mglyph",
   "mi", "min", "minus", "mlabeledtr", "mlongdiv", "mmultiscripts", "mn", "mo", "mode", "moment",
   "momentabout", "mover", "mpadded", "mphantom", "mprescripts", "mroot", "mrow", "ms", "mscarries",
   "mscarry", "msgroup", "msline", "mspace", "msqrt", "msrow", "mstack", "mstyle", "msub", "msubsup",
   "msup", "mtable", "mtd", "mtext", "mtr", "munder", "munderover", "naturalnumbers", "neq", "none",
   "not", "notanumber", "notin", "notprsubset", "notsubset", "or", "otherwise", "outerproduct",
   "partialdiff", "pi", "piece", "piecewise", "plus", "power", "primes", "product", "prsubset",
   "quotient", "rationals", "real", "reals", "reln", "rem", "root", "scalarproduct", "sdev", "sec",
   "sech", "selector", "semantics", "sep", "set", "setdiff", "share", "sin", "sinh", "span", "subset",
   "sum", "tan", "tanh", "tendsto", "times", "transpose", "true", "union", "uplimit", "variance",
   "vector", "vectorproduct", "xor"]

/-- Names that drawings or formulas share with running content. -/
def sharedNames : List String := ["title", "style", "font", "a", "script", "span"]

/-- Whether an element vanishes with its content. -/
def Kind.vanishes (k : Kind) : Bool :=
  match k.vocabulary with
  | .svg => k.name ≠ "svg"
  | .math => k.name ≠ "math"
  | .html =>
    ["script", "style", "template"].contains k.name
      || ((drawingNames.contains k.name || formulaNames.contains k.name)
        && !sharedNames.contains k.name)

def KeptTag.of? (name : String) : Option KeptTag :=
  [KeptTag.div, .span, .pre, .code].find? (·.name = name)

/-- The class of an element. -/
def Element.label (e : Element) : Option String :=
  (e.attributes.find? (·.name = "class")).map (·.value)

/-- An element with its clean content. -/
def Element.keep (e : Element) (content : List Markup) : List Markup :=
  if e.kind.vanishes then []
  else
    match KeptTag.of? e.kind.name with
    | some tag => [.element tag e.label content]
    | none => if e.kind.name = "br" then [.lineBreak e.label] else content

/-- The clean markup of a node; no chain of children is longer than `depth`. -/
def Dom.outline (d : Dom) : Nat → Nat → List Markup
  | 0, _ => []
  | depth + 1, id =>
    match d.nodes[id]? with
    | none => []
    | some node =>
      match node.matter with
      | .text chars => [.text chars]
      | .element e => e.keep (node.children.toList.flatMap (d.outline depth))

/-- The clean markup of the whole tree. -/
def Dom.markup (d : Dom) : List Markup :=
  match d.nodes[0]? with
  | none => []
  | some root => root.children.toList.flatMap (d.outline d.nodes.size)

/-- Clean an untrusted text: what stays is written in one way only. -/
def clean (text : String) : String :=
  String.ofList (Markup.renderAll (Dom.ofText text.toList).markup)

end SchemaBoard.Html
