import SchemaBoard.Json.Value

/-!
# Shapes of replies

A `Shape` is a rule that a value keeps or breaks, place by place. It is written as a JSON Schema
document; what a document does not speak of is free.
-/
namespace SchemaBoard.Reply

open Json

mutual

inductive Shape where
  | text
  | flag
  /-- A whole number that is not below zero. -/
  | count
  | list (item : Shape)
  | record (required : List String) (properties : Properties)

inductive Properties where
  | nil
  | cons (name : String) (shape : Shape) (rest : Properties)

end

/-- The type that a shape asks for. -/
def Shape.typeName : Shape → String
  | .text => "string"
  | .flag => "boolean"
  | .count => "integer"
  | .list _ => "array"
  | .record _ _ => "object"

/-- Whether a value is of the type that the shape asks for. -/
def Shape.hasType : Shape → Value → Bool
  | .text, .string _ => true
  | .flag, .bool _ => true
  | .count, .number n => n.isWhole
  | .list _, .array _ => true
  | .record _ _, .object _ => true
  | _, _ => false

mutual

/-- The document of a shape. -/
def Shape.document : Shape → Value
  | .count => .object [("type", .string "integer"), ("minimum", .nat 0)]
  | .list item => .object [("type", .string "array"), ("items", item.document)]
  | .record required properties =>
    .object [("type", .string "object"), ("required", .array (required.map .string)),
      ("properties", .object properties.documents)]
  | shape => .object [("type", .string shape.typeName)]

def Properties.documents : Properties → List (String × Value)
  | .nil => []
  | .cons name shape rest => (name, shape.document) :: rest.documents

end

def spanShape : Shape :=
  .record ["start", "end"] (.cons "start" .count (.cons "end" .count .nil))

def fieldShape : Shape :=
  .record ["name", "type", "is_index", "constraints", "relation_ship_fields",
      "relation_ship_references"]
    (.cons "name" .text (.cons "type" .text (.cons "is_index" .flag
      (.cons "constraints" (.list .text) (.cons "relation_ship_fields" (.list .text)
        (.cons "relation_ship_references" (.list .text) .nil))))))

def modelShape : Shape :=
  .record ["id", "name", "span", "fields", "code"]
    (.cons "id" .text (.cons "name" .text (.cons "span" spanShape (.cons "code" .text
      (.cons "fields" (.list fieldShape) .nil)))))

/-- The shape of an analysed schema. -/
def analysisShape : Shape :=
  .record ["schema", "result"]
    (.cons "schema" .text (.cons "result" (.list modelShape) .nil))

/-- The shape of highlighted code. -/
def highlightShape : Shape :=
  .record ["code"] (.cons "code" (.record ["html"] (.cons "html" .text .nil)) .nil)

end SchemaBoard.Reply
