/-!
# Analysed schemas

What the remote service finds in a schema: the text it was given and the models in it, in the order
of the service. Models are looked up by their id; where two share one, the first counts.
-/
namespace SchemaBoard

/-- A stretch of a schema's text, from `start` up to `stop`. -/
structure Span where
  start : UInt64 := 0
  stop : UInt64 := 0
  deriving DecidableEq, Repr

structure Field where
  name : String
  type : String
  isIndex : Bool
  constraints : List String
  relationFields : List String
  relationReferences : List String
  deriving DecidableEq, Repr

/-- Whether a field takes part in a relation on either side. -/
def Field.isRelation (f : Field) : Bool :=
  !f.relationFields.isEmpty || !f.relationReferences.isEmpty

structure Model where
  id : String
  name : String
  span : Span
  fields : List Field
  code : String
  deriving DecidableEq, Repr

structure Analysis where
  schema : String
  models : List Model
  deriving DecidableEq, Repr

def Analysis.model? (a : Analysis) (id : String) : Option Model :=
  a.models.find? (·.id = id)

/-- What the service is asked to highlight: a stretch of a schema. -/
structure HighlightRequest where
  span : Span
  schema : String
  deriving DecidableEq, Repr

end SchemaBoard
