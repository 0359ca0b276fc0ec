import SchemaBoard.Json.Format
import SchemaBoard.Schema.Basic

/-!
# Schemas in JSON

The forms in which spans, fields, models and whole analyses are written, and the way between a
record and the tuple that carries it.
-/
namespace SchemaBoard

open Json

def Span.form : Format :=
  .record "Span" (.cons "start" .count (.cons "end" .count .nil))

def Field.form : Format :=
  .record "Field" (.cons "name" .text (.cons "type" .text (.cons "is_index" .flag
    (.cons "constraints" (.list .text) (.cons "relation_ship_fields" (.list .text)
      (.cons "relation_ship_references" (.list .text) .nil))))))

def Model.form : Format :=
  .record "Model" (.cons "id" .text (.cons "name" .text (.cons "span" Span.form
    (.cons "fields" (.list Field.form) (.cons "code" .text .nil)))))

def Analysis.form : Format :=
  .record "SchemaResult" (.cons "schema" .text (.cons "result" (.list Model.form) .nil))

/-- The form of highlighted code by itself. -/
def highlightForm : Format := .record "HighlightedCode" (.cons "html" .text .nil)

/-- The form in which the service sends highlighted code. -/
def highlightReplyForm : Format :=
  .record "CodeHighlightResponse" (.cons "code" highlightForm .nil)

def Span.ofTuple : Span.form.Carrier → Span
  | (start, stop, ()) => ⟨start, stop⟩

def Span.toTuple (s : Span) : Span.form.Carrier := (s.start, s.stop, ())

def Field.ofTuple : Field.form.Carrier → Field
  | (name, type, isIndex, constraints, fields, references, ()) =>
    ⟨name, type, isIndex, constraints, fields, references⟩

def Field.toTuple (f : Field) : Field.form.Carrier :=
  (f.name, f.type, f.isIndex, f.constraints, f.relationFields, f.relationReferences, ())

def Model.ofTuple : Model.form.Carrier → Model
  | (id, name, span, fields, code, ()) =>
    ⟨id, name, Span.ofTuple span, fields.map Field.ofTuple, code⟩

def Model.toTuple (m : Model) : Model.form.Carrier :=
  (m.id, m.name, m.span.toTuple, m.fields.map Field.toTuple, m.code, ())

def Analysis.ofTuple : Analysis.form.Carrier → Analysis
  | (schema, models, ()) => ⟨schema, models.map Model.ofTuple⟩

def Analysis.toTuple (a : Analysis) : Analysis.form.Carrier :=
  (a.schema, a.models.map Model.toTuple, ())

def Span.toValue (s : Span) : Value := Span.form.toValue s.toTuple

def Field.toValue (f : Field) : Value := Field.form.toValue f.toTuple

def Model.toValue (m : Model) : Value := Model.form.toValue m.toTuple

def Analysis.toValue (a : Analysis) : Value := Analysis.form.toValue a.toTuple

def HighlightRequest.toValue (r : HighlightRequest) : Value :=
  .object [("span", r.span.toValue), ("schema", .string r.schema)]

@[simp] theorem Span.ofTuple_toTuple (s : Span) : Span.ofTuple s.toTuple = s := rfl

@[simp] theorem Field.ofTuple_toTuple (f : Field) : Field.ofTuple f.toTuple = f := rfl

@[simp] theorem Model.ofTuple_toTuple (m : Model) : Model.ofTuple m.toTuple = m := by
  cases m
  simp [Model.ofTuple, Model.toTuple, Function.comp_def]

@[simp] theorem Analysis.ofTuple_toTuple (a : Analysis) : Analysis.ofTuple a.toTuple = a := by
  cases a
  simp [Analysis.ofTuple, Analysis.toTuple, Function.comp_def]

end SchemaBoard
