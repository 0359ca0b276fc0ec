import SchemaBoard.Proofs.Reply.RoundTrip

/-!
# Two readers of one reply

A reply is decoded by way of a value, which is held against a shape and then converted; its text can
also be read straight in the form, which never sees a shape and passes over what it does not know.
What the first makes of a text the second makes of it too, as long as no object repeats a name: of
members with one name the value keeps the last, while the other reader refuses the second. The
second reader takes more, a list for a record among it. Main statement:
`straight_reading_agrees`.
-/
namespace SchemaBoard.Reply

open Json

variable {shape : Shape} {form : Format} {url body : String}

/-- A text in which no object has two members of one name, however the names are spelled. -/
def NamesOnce (body : String) : Prop := ∃ t, IsText body t ∧ t.Distinct

theorem namesOnce_print {v : Value} (h : Printed greatestDepth v) : NamesOnce v.print := by
  obtain ⟨t, text, distinct, -⟩ := h.exists_isText
  exact ⟨t, text, distinct⟩

/-- A value that keeps a shape is decoded from its print. -/
theorem decode_print {v : Value} {a : form.Carrier} (h : Printed greatestDepth v)
    (valid : validate shape v = []) (ha : form.ofValue v = .ok a) (url : String) :
    decode shape form url v.print = .ok a := by
  obtain ⟨t, text, -, value⟩ := h.exists_isText
  exact decode_of_converted ((parse_ok_iff _ v).2 ⟨t, text, value⟩) (validate_eq_nil_iff.1 valid) ha

/-- What is decoded against any shape is read straight from the text. -/
theorem parse_of_decode {a : form.Carrier} (hf : form.Distinct) (hb : NamesOnce body)
    (h : decode shape form url body = .ok a) : form.parse body = .ok a := by
  obtain ⟨t, text, distinct⟩ := hb
  obtain ⟨v, parsed, -, converted⟩ := decode_ok_iff.1 h
  have value : v = t.value := by
    have whole : Value.parse body = .ok t.value := (parse_ok_iff body _).2 ⟨t, text, rfl⟩
    exact Except.ok.inj (parsed.symm.trans whole)
  subst value
  exact parse_direct hf text distinct converted

/-- The same for what a carrier stands for. -/
theorem map_parse_of_decode {α : Type} {f : form.Carrier → α} {x : α} (hf : form.Distinct)
    (hb : NamesOnce body) (h : (decode shape form url body).map f = .ok x) :
    (form.parse body).map f = .ok x := by
  obtain ⟨a, decoded, rfl⟩ := exists_of_map_ok h
  rw [parse_of_decode hf hb decoded]
  rfl

/-- The analysis that is read straight from a text. -/
def readAnalysis (body : String) : Except Fault Analysis :=
  (Analysis.form.parse body).map Analysis.ofTuple

/-- The highlighted code that is read straight from a text. -/
def readHighlight (body : String) : Except Fault String :=
  (highlightReplyForm.parse body).map fun ((html, ()), ()) => html

/-- Where a reply is decoded, reading its text straight gives the same analysis, and the same
highlighted code. -/
theorem straight_reading_agrees (hb : NamesOnce body) (url : String) :
    (∀ a, decodeAnalysis url body = .ok a → readAnalysis body = .ok a) ∧
    (∀ html, decodeHighlight url body = .ok html → readHighlight body = .ok html) := by
  constructor
  · intro a h
    exact map_parse_of_decode (covers_analysis.distinct _) hb h
  · intro html h
    exact map_parse_of_decode (covers_highlight.distinct _) hb h

/-- A model as a reply may name it, with a member that no form knows and in no order of a form. -/
def strayModel : Value :=
  .object [("later", .array [.bool true, .object [("id", .string "b")]]), ("code", .string "\n"),
    ("fields", .array []), ("name", .string "A"), ("id", .string "a"),
    ("span", .object [("end", .number (.natural 7)), ("start", .number (.natural 0))])]

/-- A reply with such models, and with highlighted code besides. -/
def strayReply : Value :=
  .object [("result", .array [strayModel]), ("code", .object [("html", .string "<b>")]),
    ("schema", .string "s")]

theorem printed_strayReply : Printed greatestDepth strayReply := by
  have code : Printed 126 (.object [("html", .string "<b>")]) :=
    printed_object (by decide) (by simp [printed_text])
  have span : Printed 124
      (.object [("end", .number (.natural 7)), ("start", .number (.natural 0))]) :=
    printed_object (by decide) (by simp [printed_count])
  have inner : Printed 123 (.object [("id", .string "b")]) :=
    printed_object (by decide) (by simp [printed_text])
  have later : Printed 124 (.array [.bool true, .object [("id", .string "b")]]) :=
    printed_array (by simp [printed_flag, inner])
  have fields : Printed 124 (.array []) := printed_array nofun
  have model : Printed 125 strayModel :=
    printed_object (by decide) (by simp [printed_text, span, later, fields])
  have models : Printed 126 (.array [strayModel]) := printed_array (by simp [model])
  exact printed_object (by decide) (by simp [printed_text, models, code])

def strayAnalysis : Analysis := ⟨"s", [⟨"a", "A", ⟨0, 7⟩, [], "\n"⟩]⟩

/-- Both readers pass over what they do not know, each for its own reply. -/
theorem straight_reading_agrees_strayReply :
    NamesOnce strayReply.print ∧
    readAnalysis strayReply.print = .ok strayAnalysis ∧
    readHighlight strayReply.print = .ok "<b>" := by
  have once := namesOnce_print printed_strayReply
  have model : Analysis.form.ofValue strayReply = .ok strayAnalysis.toTuple := rfl
  have code : highlightReplyForm.ofValue strayReply = .ok (("<b>", ()), ()) := rfl
  obtain ⟨analysis, highlight⟩ := straight_reading_agrees once "u"
  refine ⟨once, analysis strayAnalysis ?_, highlight "<b>" ?_⟩
  · rw [decodeAnalysis, decode_print printed_strayReply rfl model]
    rfl
  · rw [decodeHighlight, decode_print printed_strayReply rfl code]
    rfl

/-- Of two members with one name a value keeps the last, where the other reader stops. -/
example :
    Value.parse "\x7b\"html\":\"a\",\"html\":\"b\"\x7d" = .ok (.object [("html", .string "b")]) ∧
    (highlightForm.parse "\x7b\"html\":\"a\",\"html\":\"b\"\x7d").isOk = false :=
  ⟨rfl, rfl⟩

end SchemaBoard.Reply
