import SchemaBoard.Json.Format.Convert
import SchemaBoard.Proofs.Json.Tree
import SchemaBoard.Proofs.Success

/-!
# What a value means in a form

`Format.Means` says field by field what a value of a form is, for records that are written as
objects. Main statement: `ofValue_object_iff`: an object with distinct names is converted if and
only if every field is there and is converted, whatever the order of its members.
-/
namespace SchemaBoard.Json

mutual

/-- What a value says in a form; members that are no fields say nothing. -/
def Format.Means : (form : Format) → Value → form.Carrier → Prop
  | .count, v, n => v = .number (.natural n)
  | .flag, v, b => v = .bool b
  | .text, v, s => v = .string s
  | .list item, v, as => ∃ vs, v = .array vs ∧ List.Forall₂ (Format.Means item) vs as
  | .record _ fields, v, a => ∃ ms, v = .object ms ∧ Fields.Means fields ms a

def Fields.Means : (fields : Fields) → List (String × Value) → fields.Carrier → Prop
  | .nil, _, _ => True
  | .cons name form rest, ms, (a, as) =>
    (∃ v, ms.lookup name = some v ∧ Format.Means form v a) ∧ Fields.Means rest ms as

end

theorem convertItems_ok_iff {α : Type} {convert : Value → Except Mismatch α} {vs : List Value}
    {as : List α} :
    convertItems convert vs = .ok as ↔ List.Forall₂ (fun v a => convert v = .ok a) vs as := by
  induction vs generalizing as with
  | nil =>
    rw [convertItems, List.forall₂_nil_left_iff]
    exact ⟨fun h => (Except.ok.inj h).symm, fun h => by rw [h]⟩
  | cons v vs ih =>
    constructor
    · intro h
      obtain ⟨a, ha, h⟩ := exists_of_bind_ok h
      obtain ⟨bs, hbs, h⟩ := exists_of_bind_ok h
      obtain rfl := Except.ok.inj h
      exact .cons ha (ih.1 hbs)
    · rintro (_ | ⟨ha, has⟩)
      simp [convertItems, ha, ih.2 has, bind, Except.bind, pure, Except.pure]

namespace Fields

def names : Fields → List String
  | .nil => []
  | .cons name _ rest => name :: rest.names

/-- Every field is there and is converted. -/
def Converts : (fields : Fields) → List (String × Value) → fields.Carrier → Prop
  | .nil, _, _ => True
  | .cons name form rest, ms, (a, as) =>
    (∃ v, ms.lookup name = some v ∧ form.ofValue v = .ok a) ∧ rest.Converts ms as

/-- A slot behind the member of its name, if there is one. -/
def SlotFilled (form : Format) (member : Option Value) (s s' : Option form.Carrier) : Prop :=
  match member with
  | none => s' = s
  | some v => s = none ∧ ∃ a, form.ofValue v = .ok a ∧ s' = some a

/-- The slots behind some members. -/
def Filled : (fields : Fields) → List (String × Value) → fields.Slots → fields.Slots → Prop
  | .nil, _, _, _ => True
  | .cons name form rest, ms, (s, ss), (s', ss') =>
    SlotFilled form (ms.lookup name) s s' ∧ rest.Filled ms ss ss'

theorem filled_nil : (fields : Fields) → (ss ss' : fields.Slots) →
    (fields.Filled [] ss ss' ↔ ss' = ss)
  | .nil, _, _ => ⟨fun _ => rfl, fun _ => trivial⟩
  | .cons _ _ rest, (s, ss), (s', ss') => by
    simp only [Filled, List.lookup_nil, SlotFilled, filled_nil rest, Prod.mk.injEq]

/-- Members that are no fields leave the slots as they are. -/
theorem filled_of_notMem {n : String} (v : Value) : (fields : Fields) → n ∉ fields.names →
    (ss ss' : fields.Slots) → (fields.Filled [(n, v)] ss ss' ↔ ss' = ss)
  | .nil, _, _, _ => ⟨fun _ => rfl, fun _ => trivial⟩
  | .cons name _ rest, hn, (s, ss), (s', ss') => by
    obtain ⟨here, there⟩ := not_or.1 (mt List.mem_cons.2 hn)
    simp only [Filled, List.lookup_cons, List.lookup_nil, beq_eq_false_iff_ne.2 (Ne.symm here),
      SlotFilled, filled_of_notMem v rest there, Prod.mk.injEq]

theorem put_ok_iff {n : String} {v : Value} : (fields : Fields) → fields.names.Nodup →
    (ss ss' : fields.Slots) →
    (Fields.put fields n v ss = .ok ss' ↔ fields.Filled [(n, v)] ss ss')
  | .nil, _, _, _ => ⟨fun _ => trivial, fun _ => rfl⟩
  | .cons name form rest, hn, (s, ss), (s', ss') => by
    obtain ⟨fresh, hn⟩ := List.nodup_cons.1 hn
    by_cases h : n = name
    · subst h
      rw [Fields.put.eq_def]
      simp only [if_true]
      simp only [Filled, List.lookup_cons, BEq.rfl, SlotFilled, filled_of_notMem v rest fresh]
      cases s with
      | some a => simp
      | none =>
        constructor
        · intro hp
          obtain ⟨a, ha, he⟩ := exists_of_bind_ok hp
          obtain ⟨rfl, rfl⟩ := Prod.mk.inj (Except.ok.inj he)
          exact ⟨⟨rfl, a, ha, rfl⟩, rfl⟩
        · rintro ⟨⟨-, a, ha, rfl⟩, rfl⟩
          simp [ha, bind, Except.bind, pure, Except.pure]
    · rw [Fields.put.eq_def]
      simp only [h, if_false]
      simp only [Filled, List.lookup_cons, List.lookup_nil, beq_eq_false_iff_ne.2 (Ne.symm h),
        SlotFilled, ← put_ok_iff rest hn]
      constructor
      · intro hp
        obtain ⟨ts, hts, he⟩ := exists_of_bind_ok hp
        obtain ⟨rfl, rfl⟩ := Prod.mk.inj (Except.ok.inj he)
        exact ⟨rfl, hts⟩
      · rintro ⟨rfl, hts⟩
        simp [hts, bind, Except.bind, pure, Except.pure]

theorem filled_cons_iff {n : String} {v : Value} {ms : List (String × Value)}
    (hn : n ∉ ms.map Prod.fst) : (fields : Fields) → (ss ss'' : fields.Slots) →
    (fields.Filled ((n, v) :: ms) ss ss''
      ↔ ∃ ss', fields.Filled [(n, v)] ss ss' ∧ fields.Filled ms ss' ss'')
  | .nil, _, _ => ⟨fun _ => ⟨(), trivial, trivial⟩, fun _ => trivial⟩
  | .cons name form rest, (s, ss), (s'', ss'') => by
    have slot : SlotFilled form (List.lookup name ((n, v) :: ms)) s s''
        ↔ ∃ s', SlotFilled form (List.lookup name [(n, v)]) s s'
            ∧ SlotFilled form (ms.lookup name) s' s'' := by
      by_cases h : name = n
      · subst h
        have absent : ms.lookup name = none := by
          rw [List.lookup_eq_none_iff]
          rintro ⟨l, w⟩ hm
          refine bne_iff_ne.2 ?_
          rintro rfl
          exact hn (List.mem_map_of_mem hm)
        simp [absent, SlotFilled]
      · simp [List.lookup_cons, beq_eq_false_iff_ne.2 h, SlotFilled]
    simp only [Filled, slot, filled_cons_iff hn rest]
    constructor
    · rintro ⟨⟨s', h₁, h₂⟩, ss', h₃, h₄⟩
      exact ⟨(s', ss'), ⟨h₁, h₃⟩, h₂, h₄⟩
    · rintro ⟨⟨s', ss'⟩, ⟨h₁, h₃⟩, h₂, h₄⟩
      exact ⟨⟨s', h₁, h₂⟩, ss', h₃, h₄⟩

theorem convertMembers_ok_iff {fields : Fields} (hf : fields.names.Nodup)
    {ms : List (String × Value)} (hm : (ms.map Prod.fst).Nodup) {ss ss' : fields.Slots} :
    convertMembers (Fields.put fields) ms ss = .ok ss' ↔ fields.Filled ms ss ss' := by
  induction ms generalizing ss with
  | nil =>
    rw [convertMembers, filled_nil]
    exact ⟨fun h => (Except.ok.inj h).symm, fun h => by rw [h]⟩
  | cons m ms ih =>
    obtain ⟨n, v⟩ := m
    obtain ⟨fresh, hm⟩ := List.nodup_cons.1 hm
    rw [filled_cons_iff fresh]
    constructor
    · intro h
      obtain ⟨ts, hts, h⟩ := exists_of_bind_ok h
      exact ⟨ts, (put_ok_iff fields hf ss ts).1 hts, (ih hm).1 h⟩
    · rintro ⟨ts, hts, h⟩
      simp [convertMembers, (put_ok_iff fields hf ss ts).2 hts, (ih hm).2 h, bind, Except.bind]

/-- All fields of a record. -/
def fullSlots : (fields : Fields) → fields.Carrier → fields.Slots
  | .nil, _ => ()
  | .cons _ _ rest, (a, as) => (some a, rest.fullSlots as)

theorem complete_ok_iff : (fields : Fields) → (ss : fields.Slots) → (a : fields.Carrier) →
    (fields.complete ss = .ok a ↔ ss = fields.fullSlots a)
  | .nil, _, _ => ⟨fun _ => rfl, fun _ => rfl⟩
  | .cons _ _ rest, (none, ss), (a, as) => by simp [complete, fullSlots]
  | .cons _ _ rest, (some b, ss), (a, as) => by
    constructor
    · intro h
      obtain ⟨bs, hbs, he⟩ := exists_of_map_ok h
      obtain ⟨rfl, rfl⟩ := Prod.mk.inj he
      rw [fullSlots, ← (complete_ok_iff rest ss bs).1 hbs]
    · intro h
      obtain ⟨hb, hs⟩ := Prod.mk.inj h
      obtain rfl := Option.some.inj hb
      rw [complete, (complete_ok_iff rest ss as).2 hs]
      rfl

theorem filled_fullSlots_iff : (fields : Fields) → (ms : List (String × Value)) →
    (a : fields.Carrier) →
    (fields.Filled ms fields.emptySlots (fields.fullSlots a) ↔ fields.Converts ms a)
  | .nil, _, _ => Iff.rfl
  | .cons name form rest, ms, (a, as) => by
    simp only [Filled, emptySlots, fullSlots, Converts, filled_fullSlots_iff rest]
    cases ms.lookup name <;> simp [SlotFilled]

end Fields

/-- An object is converted if and only if all its fields are. -/
theorem ofValue_object_iff {name : String} {fields : Fields} (hf : fields.names.Nodup)
    {ms : List (String × Value)} (hm : (ms.map Prod.fst).Nodup) (a : fields.Carrier) :
    Format.ofValue (.record name fields) (.object ms) = .ok a ↔ fields.Converts ms a := by
  rw [← Fields.filled_fullSlots_iff, Format.ofValue, ← Fields.convertMembers_ok_iff hf hm]
  constructor
  · intro h
    obtain ⟨ss, hss, h⟩ := exists_of_bind_ok h
    rw [hss, (Fields.complete_ok_iff fields ss a).1 h]
  · intro h
    simp only [h, bind, Except.bind]
    exact (Fields.complete_ok_iff fields _ a).2 rfl

/-! ## Forms in which no record has two fields of one name -/

mutual

def Format.Distinct : Format → Prop
  | .count | .flag | .text => True
  | .list item => item.Distinct
  | .record _ fields => fields.names.Nodup ∧ fields.Distinct

def Fields.Distinct : Fields → Prop
  | .nil => True
  | .cons _ form rest => form.Distinct ∧ rest.Distinct

end

/-! ## What is written in a form -/

theorem Fields.fst_toMembers : (fields : Fields) → (a : fields.Carrier) →
    (fields.toMembers a).map Prod.fst = fields.names
  | .nil, _ => rfl
  | .cons name _ rest, (_, as) => by
    rw [toMembers, List.map_cons, fst_toMembers rest as, names]

mutual

/-- What is written in a form means what was written. -/
theorem Format.means_toValue : (form : Format) → form.Distinct → (a : form.Carrier) →
    form.Means (form.toValue a) a
  | .count, _, _ | .flag, _, _ | .text, _, _ => rfl
  | .list item, h, as => by
    refine ⟨_, rfl, ?_⟩
    rw [List.forall₂_map_left_iff, List.forall₂_same]
    exact fun a _ => Format.means_toValue item h a
  | .record _ fields, h, a => by
    refine ⟨_, rfl, Fields.means_toMembers fields h.2 a fun m hm => ?_⟩
    refine Keyed.lookup_of_mem ?_ hm
    rw [fields.fst_toMembers]
    exact h.1

theorem Fields.means_toMembers : (fields : Fields) → fields.Distinct → (a : fields.Carrier) →
    {ms : List (String × Value)} →
    (∀ m ∈ fields.toMembers a, ms.lookup m.1 = some m.2) → fields.Means ms a
  | .nil, _, _, _, _ => trivial
  | .cons _ form rest, h, (a, as), _, found => by
    obtain ⟨here, there⟩ := List.forall_mem_cons.1 found
    exact ⟨⟨_, here, Format.means_toValue form h.1 a⟩, Fields.means_toMembers rest h.2 as there⟩

end

end SchemaBoard.Json
