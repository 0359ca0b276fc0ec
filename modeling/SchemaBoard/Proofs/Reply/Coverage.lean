import SchemaBoard.Proofs.Json.Form
import SchemaBoard.Proofs.Reply.Admission
import SchemaBoard.Reply.Decode

/-!
# Shapes cover forms

A reply is held against a shape before it is converted to a form. A shape covers a form if both ask
for the same fields of the same types. Such a shape admits whatever means something in the form;
what it admits is converted unless a count in it is not written as a count. Main statements:
`ofValue_ok_iff_means`, `exists_means_iff`.
-/
namespace SchemaBoard.Reply

open Json

def Properties.toList : Properties → List (String × Shape)
  | .nil => []
  | .cons name shape rest => (name, shape) :: rest.toList

mutual

/-- A shape asks for the fields of a form, in any order, and covers each of them. -/
def Covers : Shape → Format → Prop
  | s, .text => s = .text
  | s, .flag => s = .flag
  | s, .count => s = .count
  | s, .list item => ∃ t, s = .list t ∧ Covers t item
  | s, .record _ fields => ∃ properties ps, s = .record fields.names properties ∧
      fields.names.Nodup ∧ properties.toList.Perm ps ∧ CoversFields ps fields

def CoversFields : List (String × Shape) → Fields → Prop
  | ps, .nil => ps = []
  | ps, .cons name form rest =>
    ∃ s qs, ps = (name, s) :: qs ∧ Covers s form ∧ CoversFields qs rest

end

theorem Covers.text : Covers .text .text := rfl

theorem Covers.flag : Covers .flag .flag := rfl

theorem Covers.count : Covers .count .count := rfl

theorem Covers.list {s : Shape} {item : Format} (h : Covers s item) :
    Covers (.list s) (.list item) :=
  ⟨s, rfl, h⟩

theorem Covers.record {required : List String} {properties : Properties} {name : String}
    {fields : Fields} {ps : List (String × Shape)} (names : fields.names = required)
    (nodup : fields.names.Nodup) (perm : properties.toList.Perm ps) (h : CoversFields ps fields) :
    Covers (.record required properties) (.record name fields) :=
  ⟨properties, ps, names ▸ rfl, nodup, perm, h⟩

theorem CoversFields.nil : CoversFields [] .nil := rfl

theorem CoversFields.cons {name : String} {s : Shape} {form : Format}
    {ps : List (String × Shape)} {rest : Fields} (hs : Covers s form)
    (h : CoversFields ps rest) : CoversFields ((name, s) :: ps) (.cons name form rest) :=
  ⟨s, ps, rfl, hs, h⟩

/-! ## Lists in step -/

section

variable {α β : Type} {R S : α → β → Prop} {xs : List α}

theorem forall₂_congr_mem (h : ∀ x ∈ xs, ∀ y, R x y ↔ S x y) {ys : List β} :
    List.Forall₂ R xs ys ↔ List.Forall₂ S xs ys := by
  induction xs generalizing ys with
  | nil => simp [List.forall₂_nil_left_iff]
  | cons x xs ih =>
    have head := h x List.mem_cons_self
    have tail {ys : List β} := @ih (fun x hx => h x (List.mem_cons_of_mem _ hx)) ys
    simp only [List.forall₂_cons_left_iff, head, tail]

theorem exists_forall₂_iff : (∃ ys, List.Forall₂ R xs ys) ↔ ∀ x ∈ xs, ∃ y, R x y := by
  induction xs with
  | nil => simp
  | cons x xs ih =>
    rw [List.forall_mem_cons, ← ih]
    constructor
    · rintro ⟨_, hx | ⟨hy, hys⟩⟩
      exact ⟨⟨_, hy⟩, _, hys⟩
    · rintro ⟨⟨y, hy⟩, ys, hys⟩
      exact ⟨y :: ys, .cons hy hys⟩

end

/-! ## Properties by name -/

theorem properties_admits_iff {ms : List (String × Value)} : (properties : Properties) →
    (properties.Admits ms
      ↔ ∀ p ∈ properties.toList, ∀ v, ms.lookup p.1 = some v → p.2.Admits v)
  | .nil => by simp [Properties.Admits, Properties.toList]
  | .cons name shape rest => by
    simp only [Properties.Admits, Properties.toList, List.forall_mem_cons,
      properties_admits_iff rest]

theorem names_eq {ps : List (String × Shape)} : (fields : Fields) → CoversFields ps fields →
    fields.names = ps.map Prod.fst
  | .nil, h => by
    obtain rfl : ps = [] := h
    rfl
  | .cons name form rest, h => by
    obtain ⟨s, qs, rfl, -, h⟩ := h
    rw [Fields.names, names_eq rest h]
    rfl

/-! ## What means something is admitted -/

mutual

theorem admits_of_means : (form : Format) → {s : Shape} → {v : Value} → {a : form.Carrier} →
    Covers s form → form.Means v a → s.Admits v
  | .text, _, _, a, h, hv => by
    obtain rfl := h
    exact ⟨a, hv⟩
  | .flag, _, _, a, h, hv => by
    obtain rfl := h
    exact ⟨a, hv⟩
  | .count, _, _, a, h, hv => by
    obtain rfl := h
    exact ⟨.natural a, hv, rfl, rfl⟩
  | .list item, _, _, as, h, hv => by
    obtain ⟨t, rfl, h⟩ := h
    obtain ⟨vs, rfl, hvs⟩ := hv
    refine ⟨vs, rfl, fun w hw => ?_⟩
    obtain ⟨a, ha⟩ := exists_forall₂_iff.1 ⟨as, hvs⟩ w hw
    exact admits_of_means item h ha
  | .record _ fields, _, _, a, h, hv => by
    obtain ⟨properties, ps, rfl, -, perm, h⟩ := h
    obtain ⟨ms, rfl, hms⟩ := hv
    have each := admits_of_fields_means fields h hms
    refine ⟨ms, rfl, fun n hn => ?_, (properties_admits_iff properties).2 fun p hp v hv => ?_⟩
    · rw [names_eq fields h] at hn
      obtain ⟨p, hp, rfl⟩ := List.mem_map.1 hn
      obtain ⟨v, hv, -⟩ := each p hp
      exact ⟨v, hv⟩
    · obtain ⟨w, hw, ha⟩ := each p (perm.mem_iff.1 hp)
      obtain rfl := Option.some.inj (hv.symm.trans hw)
      exact ha

theorem admits_of_fields_means : (fields : Fields) → {ps : List (String × Shape)} →
    {ms : List (String × Value)} → {a : fields.Carrier} → CoversFields ps fields →
    fields.Means ms a → ∀ p ∈ ps, ∃ v, ms.lookup p.1 = some v ∧ p.2.Admits v
  | .nil, _, _, _, h, _ => by
    obtain rfl := h
    simp
  | .cons name form rest, _, _, (a, as), h, hv => by
    obtain ⟨s, qs, rfl, hs, h⟩ := h
    obtain ⟨⟨v, hv, ha⟩, hms⟩ := hv
    rw [List.forall_mem_cons]
    exact ⟨⟨v, hv, admits_of_means form hs ha⟩, admits_of_fields_means rest h hms⟩

end

/-! ## What is admitted is converted by its meaning -/

mutual

theorem ofValue_ok_iff_means : (form : Format) → {s : Shape} → {v : Value} →
    {a : form.Carrier} → Covers s form → v.Distinct → s.Admits v →
    (form.ofValue v = .ok a ↔ form.Means v a)
  | .text, _, _, a, h, _, hv => by
    obtain rfl := h
    obtain ⟨x, rfl⟩ := hv
    simp [Format.ofValue, Format.Means]
  | .flag, _, _, a, h, _, hv => by
    obtain rfl := h
    obtain ⟨b, rfl⟩ := hv
    simp [Format.ofValue, Format.Means]
  | .count, _, _, a, h, _, hv => by
    obtain rfl := h
    obtain ⟨n, rfl, -⟩ := hv
    cases n <;> simp [Format.ofValue, Format.Means, Number.toCount]
  | .list item, _, _, as, h, hd, hv => by
    obtain ⟨t, rfl, h⟩ := h
    obtain ⟨vs, rfl, hvs⟩ := hv
    have each := @forall₂_congr_mem _ _ _ _ vs fun w hw a =>
      @ofValue_ok_iff_means item t w a h (hd.items w hw) (hvs w hw)
    simp [Format.ofValue, Format.Means, convertItems_ok_iff, each]
  | .record _ fields, _, _, a, h, hd, hv => by
    obtain ⟨properties, ps, rfl, nodup, perm, h⟩ := h
    obtain ⟨ms, rfl, -, hms⟩ := hv
    obtain ⟨distinct, hd⟩ := hd.members
    have admits (p) (hp : p ∈ ps) (v) (hv : ms.lookup p.1 = some v) : p.2.Admits v :=
      (properties_admits_iff properties).1 hms p (perm.mem_iff.2 hp) v hv
    rw [ofValue_object_iff nodup distinct, converts_iff_means fields h hd admits]
    simp [Format.Means]

theorem converts_iff_means : (fields : Fields) → {ps : List (String × Shape)} →
    {ms : List (String × Value)} → {a : fields.Carrier} → CoversFields ps fields →
    (∀ m ∈ ms, m.2.Distinct) →
    (∀ p ∈ ps, ∀ v, ms.lookup p.1 = some v → p.2.Admits v) →
    (fields.Converts ms a ↔ fields.Means ms a)
  | .nil, _, _, _, _, _, _ => Iff.rfl
  | .cons name form rest, _, ms, (a, as), h, hd, hv => by
    obtain ⟨s, qs, rfl, hs, h⟩ := h
    obtain ⟨head, tail⟩ := List.forall_mem_cons.1 hv
    have here : (∃ v, ms.lookup name = some v ∧ form.ofValue v = .ok a)
        ↔ ∃ v, ms.lookup name = some v ∧ form.Means v a := by
      refine exists_congr fun v => and_congr_right fun hv => ?_
      exact ofValue_ok_iff_means form hs (hd _ (Keyed.mem_of_lookup hv)) (head v hv)
    simp only [Fields.Converts, Fields.Means, here, converts_iff_means rest h hd tail]

end

/-! ## Counts -/

def itemsOf : Value → List Value
  | .array vs => vs
  | _ => []

mutual

/-- The values that are to be counts. -/
def Shape.counts : Shape → Value → List Value
  | .text, _ | .flag, _ => []
  | .count, v => [v]
  | .list item, v => (itemsOf v).flatMap (Shape.counts item)
  | .record _ properties, v => Properties.counts properties v

def Properties.counts : Properties → Value → List Value
  | .nil, _ => []
  | .cons name shape rest, v =>
    (v.member? name).toList.flatMap (Shape.counts shape) ++ Properties.counts rest v

end

/-- A whole number that was written as one, without a sign and within 64 bits. -/
def IsExact (v : Value) : Prop := ∃ n, v = .number (.natural n)

theorem mem_counts_iff {v w : Value} : (properties : Properties) →
    (w ∈ properties.counts v
      ↔ ∃ p ∈ properties.toList, ∃ u, v.member? p.1 = some u ∧ w ∈ p.2.counts u)
  | .nil => by simp [Properties.counts, Properties.toList]
  | .cons name shape rest => by
    simp [Properties.counts, Properties.toList, mem_counts_iff rest]

mutual

theorem exists_means_iff : (form : Format) → {s : Shape} → {v : Value} → Covers s form →
    s.Admits v → ((∃ a, form.Means v a) ↔ ∀ w ∈ s.counts v, IsExact w)
  | .text, _, _, h, hv => by
    obtain rfl := h
    obtain ⟨x, rfl⟩ := hv
    simp [Shape.counts, Format.Means]
  | .flag, _, _, h, hv => by
    obtain rfl := h
    obtain ⟨x, rfl⟩ := hv
    simp [Shape.counts, Format.Means]
  | .count, _, _, h, _ => by
    obtain rfl := h
    simp [Shape.counts, Format.Means, IsExact]
  | .list item, _, _, h, hv => by
    obtain ⟨t, rfl, h⟩ := h
    obtain ⟨vs, rfl, hvs⟩ := hv
    have each : (∀ v ∈ vs, ∃ a, item.Means v a) ↔ ∀ v ∈ vs, ∀ w ∈ t.counts v, IsExact w :=
      forall₂_congr fun v hv => exists_means_iff item h (hvs v hv)
    constructor
    · rintro ⟨as, _, he, has⟩ w hw
      obtain rfl := Value.array.inj he
      obtain ⟨v, hv, hw⟩ := List.mem_flatMap.1 hw
      exact each.1 (exists_forall₂_iff.1 ⟨as, has⟩) v hv w hw
    · intro written
      have items := each.2 fun v hv w hw => written w (List.mem_flatMap.2 ⟨v, hv, hw⟩)
      obtain ⟨as, has⟩ := exists_forall₂_iff.2 items
      exact ⟨as, vs, rfl, has⟩
  | .record _ fields, _, _, h, hv => by
    obtain ⟨properties, ps, rfl, -, perm, h⟩ := h
    obtain ⟨ms, rfl, present, hms⟩ := hv
    have each := exists_fields_means_iff fields h fun p hp => by
      obtain ⟨v, hv⟩ := present p.1 (names_eq fields h ▸ List.mem_map_of_mem hp)
      exact ⟨v, hv, (properties_admits_iff properties).1 hms p (perm.mem_iff.2 hp) v hv⟩
    constructor
    · rintro ⟨a, _, he, ha⟩ w hw
      obtain rfl := Value.object.inj he
      obtain ⟨p, hp, v, hv, hw⟩ := (mem_counts_iff properties).1 hw
      exact each.1 ⟨a, ha⟩ p (perm.mem_iff.1 hp) v hv w hw
    · intro written
      obtain ⟨a, ha⟩ := each.2 fun p hp v hv w hw =>
        written w ((mem_counts_iff properties).2 ⟨p, perm.mem_iff.2 hp, v, hv, hw⟩)
      exact ⟨a, ms, rfl, ha⟩

theorem exists_fields_means_iff : (fields : Fields) → {ps : List (String × Shape)} →
    {ms : List (String × Value)} → CoversFields ps fields →
    (∀ p ∈ ps, ∃ v, ms.lookup p.1 = some v ∧ p.2.Admits v) →
    ((∃ a, fields.Means ms a)
      ↔ ∀ p ∈ ps, ∀ v, ms.lookup p.1 = some v → ∀ w ∈ p.2.counts v, IsExact w)
  | .nil, _, _, h, _ => by
    obtain rfl := h
    simp [Fields.Means]
  | .cons name form rest, _, ms, h, hv => by
    obtain ⟨s, qs, rfl, hs, h⟩ := h
    obtain ⟨⟨v, hv, ha⟩, tail⟩ := List.forall_mem_cons.1 hv
    rw [List.forall_mem_cons, ← exists_fields_means_iff rest h tail]
    have here := exists_means_iff form hs ha
    constructor
    · rintro ⟨⟨a, as⟩, ⟨u, hu, ha⟩, has⟩
      obtain rfl := Option.some.inj (hv.symm.trans hu)
      refine ⟨fun u hu => ?_, as, has⟩
      obtain rfl := Option.some.inj (hv.symm.trans hu)
      exact here.1 ⟨a, ha⟩
    · rintro ⟨written, as, has⟩
      obtain ⟨a, ha⟩ := here.2 (written v hv)
      exact ⟨(a, as), ⟨v, hv, ha⟩, has⟩

end

end SchemaBoard.Reply
