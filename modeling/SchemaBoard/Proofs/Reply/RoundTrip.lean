import SchemaBoard.Proofs.Json.Direct
import SchemaBoard.Proofs.Json.Print
import SchemaBoard.Proofs.Reply.Decoding

/-!
# Analyses come back from their texts

What is written in a form keeps every shape that covers the form, and comes back from any text of
it, the one printed among them: when it is read as a value, held against the shape and converted,
and when it is read straight in the form. Main statement: `decodes_own_text`.
-/
namespace SchemaBoard.Reply

open Json

variable {shape : Shape} {form : Format} {a : form.Carrier} {t : Tree} {body : String}

mutual

/-- A covered form has no record with two fields of one name. -/
theorem Covers.distinct : (form : Format) → {s : Shape} → Covers s form → form.Distinct
  | .count, _, _ | .flag, _, _ | .text, _, _ => trivial
  | .list item, _, h => by
    obtain ⟨s, -, h⟩ := h
    exact Covers.distinct item h
  | .record _ fields, _, h => by
    obtain ⟨properties, ps, -, names, -, h⟩ := h
    exact ⟨names, CoversFields.distinct fields h⟩

theorem CoversFields.distinct : (fields : Fields) → {ps : List (String × Shape)} →
    CoversFields ps fields → fields.Distinct
  | .nil, _, _ => trivial
  | .cons _ form rest, _, h => by
    obtain ⟨s, qs, -, hs, h⟩ := h
    exact ⟨Covers.distinct form hs, CoversFields.distinct rest h⟩

end

/-- What is written in a form keeps a shape that covers it. -/
theorem admits_toValue (h : Covers shape form) (a : form.Carrier) :
    shape.Admits (form.toValue a) :=
  admits_of_means form h (form.means_toValue (h.distinct form) a)

/-- What is written in a form is converted to what was written. -/
theorem ofValue_toValue (h : Covers shape form) (hd : (form.toValue a).Distinct) :
    form.ofValue (form.toValue a) = .ok a :=
  (ofValue_ok_iff_means form h hd (admits_toValue h a)).2 (form.means_toValue (h.distinct form) a)

theorem ofValue_value (h : Covers shape form) (ht : t.value = form.toValue a) :
    form.ofValue t.value = .ok a := by
  have distinct := t.distinct_value
  rw [ht] at distinct ⊢
  exact ofValue_toValue h distinct

/-- From a text of what is written in a form it is decoded. -/
theorem decode_of_isText (h : Covers shape form) (hs : IsText body t)
    (ht : t.value = form.toValue a) (url : String) : decode shape form url body = .ok a := by
  refine decode_of_converted ((parse_ok_iff body t.value).2 ⟨t, hs, rfl⟩) ?_ (ofValue_value h ht)
  rw [ht]
  exact admits_toValue h a

theorem parse_of_isText (h : Covers shape form) (hs : IsText body t) (hd : t.Distinct)
    (ht : t.value = form.toValue a) : form.parse body = .ok a :=
  parse_direct (h.distinct form) hs hd (ofValue_value h ht)

theorem exists_isText_print (a : Analysis) :
    ∃ t, IsText a.toValue.print t ∧ t.Distinct ∧ t.value = Analysis.form.toValue a.toTuple :=
  (Analysis.form.printed (covers_analysis.distinct _) (by decide) a.toTuple).exists_isText

theorem decodeAnalysis_print (a : Analysis) (url : String) :
    decodeAnalysis url a.toValue.print = .ok a := by
  obtain ⟨t, text, -, value⟩ := exists_isText_print a
  rw [decodeAnalysis, decode_of_isText covers_analysis text value url]
  exact congrArg _ a.ofTuple_toTuple

/-- An analysis comes back from the text that is printed of it, whatever its strings, however many
its models, and with every bound of its spans: from the decoder, and straight from the text. -/
theorem decodes_own_text (a : Analysis) (url : String) :
    decodeAnalysis url a.toValue.print = .ok a ∧
    (Analysis.form.parse a.toValue.print).map Analysis.ofTuple = .ok a := by
  obtain ⟨t, text, distinct, value⟩ := exists_isText_print a
  refine ⟨decodeAnalysis_print a url, ?_⟩
  rw [parse_of_isText covers_analysis text distinct value]
  exact congrArg _ a.ofTuple_toTuple

example : (⟨"a\"\n\x01", []⟩ : Analysis).toValue.print
    = "\x7b\"schema\":\"a\\\"\\n\\u0001\",\"result\":[]\x7d" := by
  rfl

end SchemaBoard.Reply
