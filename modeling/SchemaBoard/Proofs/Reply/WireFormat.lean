import SchemaBoard.Proofs.Reply.Decoding

/-!
# The format of replies

Which texts are replies and what they say, told by the text alone: by the members of its objects,
where of members with one name the last counts, and by the way its numbers are written. Main
statement: `decodes_exactly_wireFormat`.
-/
namespace SchemaBoard.Reply

open Json

/-! ## What a text says -/

/-- A number in digits alone, within 64 bits. -/
def IsCount (t : Tree) (n : UInt64) : Prop := ∃ m : Numeral, t = .number m ∧ m.IsUnsigned n.toNat

def texts (ss : List String) : Tree := .array (ss.map .string)

structure IsSpan (t : Tree) (s : Span) : Prop where
  start : ∃ u, t.member? "start" = some u ∧ IsCount u s.start
  stop : ∃ u, t.member? "end" = some u ∧ IsCount u s.stop

structure IsField (t : Tree) (f : Field) : Prop where
  name : t.member? "name" = some (.string f.name)
  type : t.member? "type" = some (.string f.type)
  isIndex : t.member? "is_index" = some (.bool f.isIndex)
  constraints : t.member? "constraints" = some (texts f.constraints)
  relationFields : t.member? "relation_ship_fields" = some (texts f.relationFields)
  relationReferences : t.member? "relation_ship_references" = some (texts f.relationReferences)

structure IsModel (t : Tree) (m : Model) : Prop where
  id : t.member? "id" = some (.string m.id)
  name : t.member? "name" = some (.string m.name)
  span : ∃ u, t.member? "span" = some u ∧ IsSpan u m.span
  fields : ∃ us, t.member? "fields" = some (.array us) ∧ List.Forall₂ IsField us m.fields
  code : t.member? "code" = some (.string m.code)

/-- An analysis: its models, and the fields in them, in the order of the text. -/
structure IsAnalysis (t : Tree) (a : Analysis) : Prop where
  schema : t.member? "schema" = some (.string a.schema)
  models : ∃ us, t.member? "result" = some (.array us) ∧ List.Forall₂ IsModel us a.models

structure IsHighlight (t : Tree) (html : String) : Prop where
  code : ∃ u, t.member? "code" = some u ∧ u.member? "html" = some (.string html)

/-! ## What a form says of it -/

/-- The fields of a record, by the members of a tree. -/
def FieldsMean : (fields : Fields) → Tree → fields.Carrier → Prop
  | .nil, _, _ => True
  | .cons name form rest, t, (a, as) =>
    (∃ u, t.member? name = some u ∧ form.Means u.value a) ∧ FieldsMean rest t as

theorem fieldsMean_iff {t : Tree} {ms : List (String × Value)} (h : t.value = .object ms) :
    (fields : Fields) → (a : fields.Carrier) → (fields.Means ms a ↔ FieldsMean fields t a)
  | .nil, _ => Iff.rfl
  | .cons name form rest, (a, as) => by
    have members : ms.lookup name = (t.member? name).map Tree.value := by
      rw [← t.member?_value, h]
      rfl
    simp only [Fields.Means, FieldsMean, members, fieldsMean_iff h rest, Option.map_eq_some_iff]
    refine and_congr_left fun _ => ?_
    constructor
    · rintro ⟨_, ⟨u, hu, rfl⟩, ha⟩
      exact ⟨u, hu, ha⟩
    · rintro ⟨u, hu, ha⟩
      exact ⟨u.value, ⟨u, hu, rfl⟩, ha⟩

/-- A record with a field is an object with its fields. -/
theorem means_record_iff {record name : String} {form : Format} {rest : Fields} {t : Tree}
    {a : (Fields.cons name form rest).Carrier} :
    Format.Means (.record record (.cons name form rest)) t.value a
      ↔ FieldsMean (.cons name form rest) t a := by
  constructor
  · rintro ⟨ms, h, ha⟩
    exact (fieldsMean_iff h _ a).1 ha
  · intro ha
    obtain ⟨⟨u, hu, -⟩, -⟩ := id ha
    cases t with
    | object ms => exact ⟨_, rfl, (fieldsMean_iff rfl _ a).2 ha⟩
    | _ => cases hu

theorem means_list_iff {item : Format} {t : Tree} {as : List item.Carrier} :
    (Format.list item).Means t.value as
      ↔ ∃ us, t = .array us ∧ List.Forall₂ (fun u a => item.Means u.value a) us as := by
  constructor
  · rintro ⟨vs, h, has⟩
    obtain ⟨us, rfl, rfl⟩ := Tree.value_eq_array_iff.1 h
    exact ⟨us, rfl, List.forall₂_map_left_iff.1 has⟩
  · rintro ⟨us, rfl, has⟩
    exact ⟨us.map Tree.value, by simp [Tree.values_eq_map], List.forall₂_map_left_iff.2 has⟩

theorem means_texts_iff {t : Tree} {ss : List String} :
    (Format.list .text).Means t.value ss ↔ t = texts ss := by
  rw [means_list_iff]
  simp only [Format.Means, Tree.value_eq_string_iff]
  have row (us : List Tree) : List.Forall₂ (fun u s => u = Tree.string s) us ss
      ↔ us = ss.map .string := by
    rw [← List.forall₂_map_right_iff (R := Eq), List.forall₂_eq_eq_eq]
  simp [row, texts]

section

variable {o : Option Tree}

theorem text_iff {s : String} :
    (∃ u, o = some u ∧ Format.text.Means u.value s) ↔ o = some (.string s) := by
  simp [Format.Means, Tree.value_eq_string_iff]

theorem flag_iff {b : Bool} :
    (∃ u, o = some u ∧ Format.flag.Means u.value b) ↔ o = some (.bool b) := by
  simp [Format.Means, Tree.value_eq_bool_iff]

theorem count_iff {n : UInt64} :
    (∃ u, o = some u ∧ Format.count.Means u.value n) ↔ ∃ u, o = some u ∧ IsCount u n := by
  simp only [Format.Means, Tree.value_eq_natural_iff, IsCount]

theorem texts_iff {ss : List String} :
    (∃ u, o = some u ∧ (Format.list .text).Means u.value ss) ↔ o = some (texts ss) := by
  simp [means_texts_iff]

end

theorem means_span_iff {t : Tree} {x : Span.form.Carrier} :
    Span.form.Means t.value x ↔ IsSpan t (Span.ofTuple x) := by
  obtain ⟨start, stop, ⟨⟩⟩ := x
  simp only [Span.form, means_record_iff, FieldsMean, count_iff, and_true]
  exact ⟨fun ⟨h₁, h₂⟩ => ⟨h₁, h₂⟩, fun ⟨h₁, h₂⟩ => ⟨h₁, h₂⟩⟩

theorem means_field_iff {t : Tree} {x : Field.form.Carrier} :
    Field.form.Means t.value x ↔ IsField t (Field.ofTuple x) := by
  obtain ⟨name, type, isIndex, constraints, fields, references, ⟨⟩⟩ := x
  simp only [Field.form, means_record_iff, FieldsMean, text_iff, flag_iff, texts_iff, and_true]
  exact ⟨fun ⟨h₁, h₂, h₃, h₄, h₅, h₆⟩ => ⟨h₁, h₂, h₃, h₄, h₅, h₆⟩,
    fun ⟨h₁, h₂, h₃, h₄, h₅, h₆⟩ => ⟨h₁, h₂, h₃, h₄, h₅, h₆⟩⟩

/-- Items that mean something one by one are told by what they mean. -/
theorem items_iff {item : Format} {β : Type} {f : item.Carrier → β} {P : Tree → β → Prop}
    (h : ∀ u a, item.Means (Tree.value u) a ↔ P u (f a)) {o : Option Tree}
    {as : List item.Carrier} :
    (∃ u, o = some u ∧ (Format.list item).Means u.value as)
      ↔ ∃ us, o = some (.array us) ∧ List.Forall₂ P us (as.map f) := by
  simp only [means_list_iff, h, List.forall₂_map_right_iff]
  constructor
  · rintro ⟨_, ho, us, rfl, has⟩
    exact ⟨us, ho, has⟩
  · rintro ⟨us, ho, has⟩
    exact ⟨_, ho, us, rfl, has⟩

theorem means_model_iff {t : Tree} {x : Model.form.Carrier} :
    Model.form.Means t.value x ↔ IsModel t (Model.ofTuple x) := by
  obtain ⟨id, name, span, fields, code, ⟨⟩⟩ := x
  have items := @items_iff Field.form _ Field.ofTuple IsField (fun _ _ => means_field_iff)
    (t.member? "fields") fields
  simp only [Model.form, means_record_iff, FieldsMean, text_iff, means_span_iff, items, and_true]
  exact ⟨fun ⟨h₁, h₂, h₃, h₄, h₅⟩ => ⟨h₁, h₂, h₃, h₄, h₅⟩,
    fun ⟨h₁, h₂, h₃, h₄, h₅⟩ => ⟨h₁, h₂, h₃, h₄, h₅⟩⟩

theorem means_analysis_iff {t : Tree} {x : Analysis.form.Carrier} :
    Analysis.form.Means t.value x ↔ IsAnalysis t (Analysis.ofTuple x) := by
  obtain ⟨schema, models, ⟨⟩⟩ := x
  have items := @items_iff Model.form _ Model.ofTuple IsModel (fun _ _ => means_model_iff)
    (t.member? "result") models
  simp only [Analysis.form, means_record_iff, FieldsMean, text_iff, items, and_true]
  exact ⟨fun ⟨h₁, h₂⟩ => ⟨h₁, h₂⟩, fun ⟨h₁, h₂⟩ => ⟨h₁, h₂⟩⟩

theorem means_highlight_iff {t : Tree} {x : highlightReplyForm.Carrier} :
    highlightReplyForm.Means t.value x ↔ IsHighlight t x.1.1 := by
  obtain ⟨⟨html, ⟨⟩⟩, ⟨⟩⟩ := x
  simp only [highlightReplyForm, highlightForm, means_record_iff, FieldsMean, text_iff, and_true]
  exact ⟨fun h => ⟨h⟩, fun ⟨h⟩ => h⟩

/-! ## What is decoded -/

theorem decode_ok_iff_means {shape : Shape} {form : Format} (h : Covers shape form)
    {url body : String} {a : form.Carrier} :
    decode shape form url body = .ok a ↔ ∃ t, IsText body t ∧ form.Means t.value a := by
  rw [decode_ok_iff]
  constructor
  · rintro ⟨v, hp, hv, ha⟩
    obtain ⟨t, ht, rfl⟩ := (parse_ok_iff body v).1 hp
    exact ⟨t, ht, (ofValue_ok_iff_means form h t.distinct_value hv).1 ha⟩
  · rintro ⟨t, ht, ha⟩
    have hv := admits_of_means form h ha
    exact ⟨t.value, (parse_ok_iff body _).2 ⟨t, ht, rfl⟩, hv,
      (ofValue_ok_iff_means form h t.distinct_value hv).2 ha⟩

/-- Bodies are decoded to what their texts mean; a body that is no JSON text is told from one that
means nothing, which is refused with findings. -/
structure DecodesExactly {α : Type} (decode : String → String → Except Failure α)
    (means : Tree → α → Prop) : Prop where
  ok : ∀ url body a, decode url body = .ok a ↔ ∃ t, IsText body t ∧ means t a
  notJson : ∀ url body,
    (∃ fault, decode url body = .error (.notJson url fault)) ↔ ¬∃ t, IsText body t
  misshapen : ∀ url body,
    (∃ f fs, decode url body = .error (.misshapen url (f :: fs)))
      ↔ (∃ t, IsText body t) ∧ ¬∃ t a, IsText body t ∧ means t a

theorem exists_notJson_iff {shape : Shape} {form : Format} {url body : String} :
    (∃ fault, decode shape form url body = .error (.notJson url fault))
      ↔ ¬∃ t, IsText body t := by
  simp only [decode_notJson_iff, true_and]
  constructor
  · rintro ⟨fault, hf⟩ ⟨t, ht⟩
    have := (parse_ok_iff body _).2 ⟨t, ht, rfl⟩
    exact absurd (hf.symm.trans this) nofun
  · intro none
    cases hp : Value.parse body with
    | error fault => exact ⟨fault, rfl⟩
    | ok v =>
      obtain ⟨t, ht, -⟩ := (parse_ok_iff body v).1 hp
      exact absurd ⟨t, ht⟩ none

section

variable {shape : Shape} {form : Format} {α : Type} {f : form.Carrier → α} {means : Tree → α → Prop}

theorem map_decode_ok_iff (h : Covers shape form) {g : α → form.Carrier} (hg : ∀ a, f (g a) = a)
    (hs : ∀ t x, form.Means (Tree.value t) x ↔ means t (f x)) {url body : String} {a : α} :
    (decode shape form url body).map f = .ok a ↔ ∃ t, IsText body t ∧ means t a := by
  constructor
  · intro hd
    obtain ⟨x, hx, rfl⟩ := exists_of_map_ok hd
    obtain ⟨t, ht, hm⟩ := (decode_ok_iff_means h).1 hx
    exact ⟨t, ht, (hs t x).1 hm⟩
  · rintro ⟨t, ht, hm⟩
    have hx : decode shape form url body = .ok (g a) :=
      (decode_ok_iff_means h).2 ⟨t, ht, (hs t (g a)).2 ((hg a).symm ▸ hm)⟩
    rw [hx, Except.map, hg]

/-- A covered form is decoded exactly, by whatever its tuples stand for. -/
theorem decodesExactly_map (h : Covers shape form) {g : α → form.Carrier} (hg : ∀ a, f (g a) = a)
    (hs : ∀ t x, form.Means (Tree.value t) x ↔ means t (f x)) :
    DecodesExactly (fun url body => (decode shape form url body).map f) means where
  ok _ _ _ := map_decode_ok_iff h hg hs
  notJson _ _ := by
    simp only [map_eq_error_iff]
    exact exists_notJson_iff
  misshapen url body := by
    simp only [map_eq_error_iff]
    constructor
    · rintro ⟨x, fs, hd⟩
      constructor
      · by_contra none
        obtain ⟨fault, hf⟩ : ∃ fault, decode shape form url body = .error (.notJson url fault) :=
          exists_notJson_iff.2 none
        exact absurd (hd.symm.trans hf) nofun
      · rintro ⟨t, a, ht, hm⟩
        have ha : (decode shape form url body).map f = .ok a :=
          (map_decode_ok_iff h hg hs).2 ⟨t, ht, hm⟩
        rw [hd] at ha
        cases ha
    · rintro ⟨text, none⟩
      rcases decode_cases shape form url body with hf | hm | ⟨x, hx⟩
      · exact absurd text (exists_notJson_iff.1 hf)
      · exact hm
      · obtain ⟨t, ht, hm⟩ := (decode_ok_iff_means h).1 hx
        exact absurd ⟨t, f x, ht, (hs t x).1 hm⟩ none

end

/-- Replies are decoded exactly by the format of their texts. -/
theorem decodes_exactly_wireFormat :
    DecodesExactly decodeAnalysis IsAnalysis ∧ DecodesExactly decodeHighlight IsHighlight := by
  constructor
  · exact decodesExactly_map covers_analysis Analysis.ofTuple_toTuple fun _ _ => means_analysis_iff
  · exact decodesExactly_map covers_highlight (g := fun html => ((html, ()), ())) (fun _ => rfl)
      fun _ _ => means_highlight_iff

end SchemaBoard.Reply
