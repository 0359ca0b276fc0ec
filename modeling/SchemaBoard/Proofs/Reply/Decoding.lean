import SchemaBoard.Proofs.Json.Parse
import SchemaBoard.Proofs.Reply.Coverage

/-!
# What comes of a body

A body that is JSON is held against a shape and converted only if it keeps it. A conversion can
still fail, though the shape covers the form: a shape asks for whole numbers by their value, a form
for numbers that are written as such. Main statement: `validation_covers_conversion_iff`.
-/
namespace SchemaBoard.Reply

open Json

variable {shape : Shape} {form : Format} {url url' body : String} {fs : List Finding}

theorem validate_eq_nil_iff {v : Value} : validate shape v = [] ↔ shape.Admits v := by
  rw [validate, List.map_eq_nil_iff, violations_eq_nil_iff]

theorem decode_of_not_json {fault : Fault} (hp : Value.parse body = .error fault) :
    decode shape form url body = .error (.notJson url fault) := by
  rw [decode, hp]

theorem decode_of_violations {v : Value} (hp : Value.parse body = .ok v)
    (hv : validate shape v ≠ []) :
    decode shape form url body = .error (.misshapen url (validate shape v)) := by
  rw [decode, hp]
  cases h : validate shape v with
  | nil => exact absurd h hv
  | cons f fs => simp only [h]

theorem decode_of_mismatch {v : Value} {m : Mismatch} (hp : Value.parse body = .ok v)
    (hv : shape.Admits v) (hm : form.ofValue v = .error m) :
    decode shape form url body = .error (.misshapen url [⟨[], .mismatch m⟩]) := by
  rw [decode, hp]
  simp only [validate_eq_nil_iff.2 hv, hm]

theorem decode_of_converted {v : Value} {a : form.Carrier} (hp : Value.parse body = .ok v)
    (hv : shape.Admits v) (ha : form.ofValue v = .ok a) : decode shape form url body = .ok a := by
  rw [decode, hp]
  simp only [validate_eq_nil_iff.2 hv, ha]

theorem decode_cases (shape : Shape) (form : Format) (url body : String) :
    (∃ fault, decode shape form url body = .error (.notJson url fault)) ∨
    (∃ f fs, decode shape form url body = .error (.misshapen url (f :: fs))) ∨
    ∃ a, decode shape form url body = .ok a := by
  cases hp : Value.parse body with
  | error fault => exact .inl ⟨fault, decode_of_not_json hp⟩
  | ok v =>
    by_cases hv : shape.Admits v
    · cases ha : form.ofValue v with
      | error m => exact .inr (.inl ⟨_, _, decode_of_mismatch hp hv ha⟩)
      | ok a => exact .inr (.inr ⟨a, decode_of_converted hp hv ha⟩)
    · have violated := mt validate_eq_nil_iff.1 hv
      obtain ⟨f, fs, found⟩ := List.exists_cons_of_ne_nil violated
      exact .inr (.inl ⟨f, fs, by rw [decode_of_violations hp violated, found]⟩)

theorem decode_ok_iff {a : form.Carrier} :
    decode shape form url body = .ok a
      ↔ ∃ v, Value.parse body = .ok v ∧ shape.Admits v ∧ form.ofValue v = .ok a := by
  cases hp : Value.parse body with
  | error fault => simp [decode_of_not_json hp]
  | ok v =>
    by_cases hv : shape.Admits v
    · cases ha : form.ofValue v with
      | error m => simp [decode_of_mismatch hp hv ha, ha]
      | ok b => simp [decode_of_converted hp hv ha, hv, ha]
    · simp [decode_of_violations hp (mt validate_eq_nil_iff.1 hv), hv]

theorem decode_notJson_iff {fault : Fault} :
    decode shape form url body = .error (.notJson url' fault)
      ↔ url = url' ∧ Value.parse body = .error fault := by
  cases hp : Value.parse body with
  | error fault => simp [decode_of_not_json hp]
  | ok v =>
    by_cases hv : shape.Admits v
    · cases ha : form.ofValue v with
      | error m => simp [decode_of_mismatch hp hv ha]
      | ok b => simp [decode_of_converted hp hv ha]
    · simp [decode_of_violations hp (mt validate_eq_nil_iff.1 hv)]

/-- The one finding of a conversion that failed, at no place of its own. -/
def IsFallback (form : Format) (v : Value) (fs : List Finding) : Prop :=
  ∃ m, form.ofValue v = .error m ∧ [⟨[], .mismatch m⟩] = fs

theorem decode_misshapen_iff :
    decode shape form url body = .error (.misshapen url' fs)
      ↔ url = url' ∧ ∃ v, Value.parse body = .ok v ∧
        (validate shape v = fs ∧ fs ≠ [] ∨ shape.Admits v ∧ IsFallback form v fs) := by
  cases hp : Value.parse body with
  | error fault => simp [decode_of_not_json hp]
  | ok v =>
    by_cases hv : shape.Admits v
    · have kept : validate shape v = [] := validate_eq_nil_iff.2 hv
      cases ha : form.ofValue v with
      | error m => simp [decode_of_mismatch hp hv ha, hv, kept, ha, IsFallback]
      | ok b => simp [decode_of_converted hp hv ha, kept, ha, IsFallback]
    · have violated := mt validate_eq_nil_iff.1 hv
      suffices url = url' → validate shape v = fs → ¬fs = [] by
        simpa [decode_of_violations hp violated, hv]
      rintro - rfl
      exact violated

/-! ## The shapes of the replies cover their forms -/

theorem covers_span : Covers spanShape Span.form :=
  .record rfl (by decide) (.refl _) (.cons .count (.cons .count .nil))

theorem covers_field : Covers fieldShape Field.form := by
  have texts : Covers (.list .text) (.list .text) := .list .text
  refine .record rfl (by decide) (.refl _) ?_
  exact .cons .text (.cons .text (.cons .flag (.cons texts (.cons texts (.cons texts .nil)))))

/-- The shape of a model asks for the code before the fields, its form behind them. -/
theorem covers_model : Covers modelShape Model.form := by
  have swapped (id name span code fields : String × Shape) :
      [id, name, span, code, fields].Perm [id, name, span, fields, code] :=
    (((List.Perm.swap fields code []).cons span).cons name).cons id
  refine .record rfl (by decide) (swapped _ _ _ _ _) ?_
  exact .cons .text (.cons .text (.cons covers_span (.cons (.list covers_field)
    (.cons .text .nil))))

theorem covers_analysis : Covers analysisShape Analysis.form :=
  .record rfl (by decide) (.refl _) (.cons .text (.cons (.list covers_model) .nil))

theorem covers_highlight : Covers highlightShape highlightReplyForm := by
  have code : Covers (.record ["html"] (.cons "html" .text .nil)) highlightForm :=
    .record rfl (by decide) (.refl _) (.cons .text .nil)
  exact .record rfl (by decide) (.refl _) (.cons code .nil)

/-- The bounds of all spans in a reply. -/
def spanBounds (v : Value) : List Value :=
  (v.member? "result").toList.flatMap fun models => (itemsOf models).flatMap fun m =>
    (m.member? "span").toList.flatMap fun s =>
      (s.member? "start").toList ++ (s.member? "end").toList

theorem flatMap_none (vs : List Value) : (vs.flatMap fun _ => ([] : List Value)) = [] :=
  List.flatMap_eq_nil_iff.2 fun _ _ => rfl

theorem counts_analysisShape (v : Value) : analysisShape.counts v = spanBounds v := by
  simp [analysisShape, modelShape, fieldShape, spanShape, spanBounds, Shape.counts,
    Properties.counts, flatMap_none]

theorem counts_highlightShape (v : Value) : highlightShape.counts v = [] := by
  simp [highlightShape, Shape.counts, Properties.counts, flatMap_none]

/-! ## Where a conversion fails -/

/-- What is admitted is converted just when its counts are written as counts. -/
theorem exists_ofValue_ok_iff {v : Value} (h : Covers shape form) (hd : v.Distinct)
    (hv : shape.Admits v) : (∃ a, form.ofValue v = .ok a) ↔ ∀ w ∈ shape.counts v, IsExact w := by
  rw [← exists_means_iff form h hv]
  exact exists_congr fun a => ofValue_ok_iff_means form h hd hv

/-- Findings that are all violations of a shape, each told at the place of a value that offends. -/
structure AreViolations (shape : Shape) (v : Value) (fs : List Finding) : Prop where
  found : validate shape v = fs
  nonempty : fs ≠ []
  placed : ∀ f ∈ fs, ∃ b w, f.objection = .breach b ∧ valueAt? f.path v = some w ∧ b.IsBy w

theorem areViolations_iff {v : Value} :
    AreViolations shape v fs ↔ validate shape v = fs ∧ fs ≠ [] := by
  refine ⟨fun h => ⟨h.found, h.nonempty⟩, fun ⟨found, nonempty⟩ => ⟨found, nonempty, ?_⟩⟩
  subst found
  intro f hf
  obtain ⟨x, hx, rfl⟩ := List.mem_map.1 hf
  obtain ⟨p, w, hp, hw, hb⟩ := showsIn_violations shape [] v x hx
  exact ⟨x.breach, w, rfl, by simpa [hp] using hw, hb⟩

theorem distinct_of_parse {v : Value} (hp : Value.parse body = .ok v) : v.Distinct := by
  obtain ⟨t, -, rfl⟩ := (parse_ok_iff body v).1 hp
  exact t.distinct_value

theorem misshapen_iff (h : Covers shape form) :
    decode shape form url body = .error (.misshapen url' fs)
      ↔ url = url' ∧ ∃ v, Value.parse body = .ok v ∧ (AreViolations shape v fs ∨
          validate shape v = [] ∧ (∃ w ∈ shape.counts v, ¬IsExact w) ∧ IsFallback form v fs) := by
  rw [decode_misshapen_iff]
  refine and_congr_right fun _ => exists_congr fun v => and_congr_right fun hp => ?_
  refine or_congr areViolations_iff.symm ?_
  rw [validate_eq_nil_iff]
  refine and_congr_right fun hv => (and_iff_right_of_imp ?_).symm
  rintro ⟨m, hm, -⟩
  by_contra inexact
  have written : ∀ w ∈ shape.counts v, IsExact w := by simpa using inexact
  obtain ⟨a, ha⟩ := (exists_ofValue_ok_iff h (distinct_of_parse hp) hv).2 written
  exact absurd (hm.symm.trans ha) nofun

theorem map_eq_error_iff {ε α β : Type} {f : α → β} {x : Except ε α} {e : ε} :
    x.map f = .error e ↔ x = .error e := by
  cases x <;> simp [Except.map]

/-- What a shape admits is converted but for bounds of spans that are whole numbers and yet not
written as such: those with a fraction or an exponent, a zero with a sign, and those beyond 64 bits.
Only then a reply is refused without a place; highlighted code never is. -/
theorem validation_covers_conversion_iff {v : Value} (hd : v.Distinct) (url url' body : String)
    (fs : List Finding) :
    (validate analysisShape v = [] →
      ((∃ a, Analysis.form.ofValue v = .ok a) ↔ ∀ w ∈ spanBounds v, IsExact w)) ∧
    (validate highlightShape v = [] → ∃ a, highlightReplyForm.ofValue v = .ok a) ∧
    (decodeAnalysis url body = .error (.misshapen url' fs)
      ↔ url = url' ∧ ∃ p, Value.parse body = .ok p ∧ (AreViolations analysisShape p fs ∨
          validate analysisShape p = [] ∧ (∃ w ∈ spanBounds p, ¬IsExact w) ∧
            IsFallback Analysis.form p fs)) ∧
    (decodeHighlight url body = .error (.misshapen url' fs)
      ↔ url = url' ∧ ∃ p, Value.parse body = .ok p ∧ AreViolations highlightShape p fs) := by
  refine ⟨fun hv => ?_, fun hv => ?_, ?_, ?_⟩
  · rw [← counts_analysisShape]
    exact exists_ofValue_ok_iff covers_analysis hd (validate_eq_nil_iff.1 hv)
  · refine (exists_ofValue_ok_iff covers_highlight hd (validate_eq_nil_iff.1 hv)).2 ?_
    simp [counts_highlightShape]
  · rw [decodeAnalysis, map_eq_error_iff, misshapen_iff covers_analysis]
    simp only [counts_analysisShape]
  · rw [decodeHighlight, map_eq_error_iff, misshapen_iff covers_highlight]
    simp [counts_highlightShape]

/-- The text of a reply in which a span starts at `1.0`. -/
def fractionalText : String :=
  "\x7b\"schema\":\"s\",\"result\":[\x7b\"id\":\"a\",\"name\":\"A\"," ++
    "\"span\":\x7b\"start\":1.0,\"end\":2\x7d,\"fields\":[],\"code\":\"\"\x7d]\x7d"

/-- The number that is read from `1.0`. -/
def one : Decimal.Binary64 := ⟨false, 0x10000000000000, -52⟩

def fractionalReply : Value :=
  .object [("schema", .string "s"), ("result", .array [.object [("id", .string "a"),
    ("name", .string "A"),
    ("span", .object [("start", .number (.real one)), ("end", .number (.natural 2))]),
    ("fields", .array []), ("code", .string "")]])]

theorem parse_fractionalText : Value.parse fractionalText = .ok fractionalReply := by rfl

/-- A span that starts at `1.0` keeps its shape but is not converted; no place is told for it. -/
theorem fractional_bound_is_refused :
    fractionalReply.Distinct ∧ validate analysisShape fractionalReply = [] ∧
    (¬∃ a, Analysis.form.ofValue fractionalReply = .ok a) ∧
    decodeAnalysis "" fractionalText
      = .error (.misshapen "" [⟨[], .mismatch (.form (.number (.real one)) "usize")⟩]) := by
  have distinct : fractionalReply.Distinct := distinct_of_parse parse_fractionalText
  have valid : validate analysisShape fractionalReply = [] := rfl
  have bound : ∃ w ∈ spanBounds fractionalReply, ¬IsExact w :=
    ⟨.number (.real one), .head _, nofun⟩
  obtain ⟨w, hw, inexact⟩ := bound
  obtain ⟨converted, -, refused, -⟩ := validation_covers_conversion_iff distinct "" ""
    fractionalText [⟨[], .mismatch (.form (.number (.real one)) "usize")⟩]
  refine ⟨distinct, valid, fun h => ?_, ?_⟩
  · exact inexact ((converted valid).1 h w hw)
  · exact refused.2 ⟨rfl, _, parse_fractionalText, .inr ⟨valid, ⟨w, hw, inexact⟩, _, rfl, rfl⟩⟩

end SchemaBoard.Reply
