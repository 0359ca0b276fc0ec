import Mathlib.Data.List.Basic
import SchemaBoard.Reply.Violation

/-!
# What a shape admits

`Shape.Admits` says what it is to keep a shape, without looking for violations. Main statements:
`violations_eq_nil_iff`: a value without violations is one that is admitted; `showsIn_violations`:
every violation is told at the place of a value that offends.
-/
namespace SchemaBoard.Reply

open Json

mutual

/-- A value keeps a shape; members of other names are free. -/
def Shape.Admits : Shape → Value → Prop
  | .text, v => ∃ s, v = .string s
  | .flag, v => ∃ b, v = .bool b
  | .count, v => ∃ n, v = .number n ∧ n.isWhole = true ∧ n.isNegative = false
  | .list item, v => ∃ vs, v = .array vs ∧ ∀ w ∈ vs, Shape.Admits item w
  | .record required properties, v =>
    ∃ ms, v = .object ms ∧ (∀ n ∈ required, ∃ w, ms.lookup n = some w) ∧
      Properties.Admits properties ms

def Properties.Admits : Properties → List (String × Value) → Prop
  | .nil, _ => True
  | .cons name shape rest, ms =>
    (∀ v, ms.lookup name = some v → Shape.Admits shape v) ∧ Properties.Admits rest ms

end

theorem hasMember_iff {name : String} {ms : List (String × Value)} :
    hasMember name ms = true ↔ ∃ w, ms.lookup name = some w := by
  induction ms with
  | nil => simp [hasMember]
  | cons m ms ih =>
    obtain ⟨n, v⟩ := m
    by_cases h : name = n
    · simp [hasMember, h]
    · simpa [hasMember, List.lookup_cons, beq_eq_false_iff_ne.2 h, Ne.symm h] using ih

theorem collectItems_eq_nil_iff {collect : Nat → Value → List Violation} {n : Nat}
    {vs : List Value} {P : Value → Prop} (h : ∀ n v, collect n v = [] ↔ P v) :
    collectItems collect n vs = [] ↔ ∀ v ∈ vs, P v := by
  induction vs generalizing n with
  | nil => simp [collectItems]
  | cons v vs ih => simp [collectItems, h, ih]

mutual

theorem violations_eq_nil_iff : (shape : Shape) → (place : Path) → (v : Value) →
    (shape.violations place v = [] ↔ shape.Admits v)
  | .text, place, v => by
    rw [Shape.violations.eq_def]
    cases v <;> simp [Shape.ownViolations, Shape.hasType, Shape.Admits]
  | .flag, place, v => by
    rw [Shape.violations.eq_def]
    cases v <;> simp [Shape.ownViolations, Shape.hasType, Shape.Admits]
  | .count, place, v => by
    rw [Shape.violations.eq_def]
    cases v with
    | number n =>
      cases hn : n.isWhole <;> simp [Shape.ownViolations, Shape.hasType, Shape.Admits, hn]
    | _ => simp [Shape.ownViolations, Shape.hasType, Shape.Admits]
  | .list item, place, v => by
    rw [Shape.violations.eq_def]
    cases v with
    | array vs =>
      have items := @collectItems_eq_nil_iff
        (fun n w => item.violations (place ++ [.item n]) w) 0 vs _
        fun n w => violations_eq_nil_iff item _ w
      simp [Shape.ownViolations, Shape.hasType, Shape.Admits, items]
    | _ => simp [Shape.ownViolations, Shape.hasType, Shape.Admits]
  | .record required properties, place, v => by
    rw [Shape.violations.eq_def]
    cases v with
    | object ms =>
      simp [Shape.ownViolations, Shape.hasType, Shape.Admits, hasMember_iff,
        properties_violations_eq_nil_iff]
    | _ => simp [Shape.ownViolations, Shape.hasType, Shape.Admits]

theorem properties_violations_eq_nil_iff : (properties : Properties) → (place : Path) →
    (ms : List (String × Value)) → (properties.violations place ms = [] ↔ properties.Admits ms)
  | .nil, _, _ => by simp [Properties.violations, Properties.Admits]
  | .cons name shape rest, place, ms => by
    rw [Properties.violations, Properties.Admits, List.append_eq_nil_iff,
      properties_violations_eq_nil_iff rest place ms]
    cases ms.lookup name with
    | none => simp
    | some v => simp [violations_eq_nil_iff shape]

end

/-! ## Places of violations -/

/-- The value at a place of another. -/
def valueAt? : Path → Value → Option Value
  | [], v => some v
  | .member name :: p, v => (v.member? name).bind (valueAt? p)
  | .item i :: p, .array vs => vs[i]?.bind (valueAt? p)
  | .item _ :: _, _ => none

/-- A value breaks a rule. -/
def Breach.IsBy (v : Value) : Breach → Prop
  | .type w expected =>
    w = v ∧ ∃ shape : Shape, shape.typeName = expected ∧ shape.hasType v = false
  | .missing name => ∃ ms, v = .object ms ∧ ms.lookup name = none
  | .minimum w => w = v ∧ ∃ n, v = .number n ∧ n.isNegative = true

/-- A violation below a place shows inside the value that is there. -/
def ShowsIn (place : Path) (v : Value) (x : Violation) : Prop :=
  ∃ p w, x.path = place ++ p ∧ valueAt? p v = some w ∧ x.breach.IsBy w

theorem ShowsIn.member {place : Path} {name : String} {ms : List (String × Value)} {v : Value}
    {x : Violation} (hv : ms.lookup name = some v) (h : ShowsIn (place ++ [.member name]) v x) :
    ShowsIn place (.object ms) x := by
  obtain ⟨p, w, hp, hw, hx⟩ := h
  exact ⟨.member name :: p, w, by simp [hp], by simp [valueAt?, Value.member?, hv, hw], hx⟩

theorem ShowsIn.item {place : Path} {i : Nat} {vs : List Value} {v : Value} {x : Violation}
    (hv : vs[i]? = some v) (h : ShowsIn (place ++ [.item i]) v x) :
    ShowsIn place (.array vs) x := by
  obtain ⟨p, w, hp, hw, hx⟩ := h
  exact ⟨.item i :: p, w, by simp [hp], by simp [valueAt?, hv, hw], hx⟩

theorem ShowsIn.here {place : Path} {v : Value} {b : Breach} (h : b.IsBy v) :
    ShowsIn place v ⟨place, b⟩ :=
  ⟨[], v, (List.append_nil place).symm, rfl, h⟩

theorem showsIn_ownViolations {shape : Shape} {place : Path} {v : Value} {x : Violation}
    (h : x ∈ shape.ownViolations place v) : ShowsIn place v x := by
  have typed (h : x ∈ if shape.hasType v then [] else [⟨place, .type v shape.typeName⟩]) :
      ShowsIn place v x := by
    split at h
    · exact absurd h List.not_mem_nil
    · rename_i ht
      obtain rfl := List.mem_singleton.1 h
      exact .here ⟨rfl, shape, rfl, by simpa using ht⟩
  rw [Shape.ownViolations.eq_def] at h
  simp only at h
  split at h
  · rename_i n
    rcases List.mem_append.1 h with h | h
    · exact typed h
    split at h
    · rename_i negative
      obtain rfl := List.mem_singleton.1 h
      exact .here ⟨rfl, n, rfl, negative⟩
    · exact absurd h List.not_mem_nil
  · rename_i required _ ms
    rcases List.mem_append.1 h with h | h
    · exact typed h
    obtain ⟨name, hn, rfl⟩ := List.mem_map.1 h
    have absent : ¬hasMember name ms = true := by simpa using (List.mem_filter.1 hn).2
    rw [hasMember_iff, ← Option.isSome_iff_exists, Option.not_isSome_iff_eq_none] at absent
    exact .here ⟨ms, rfl, absent⟩
  · exact typed h

theorem mem_collectItems {collect : Nat → Value → List Violation} {n : Nat} {vs : List Value}
    {x : Violation} (h : x ∈ collectItems collect n vs) :
    ∃ i v, vs[i]? = some v ∧ x ∈ collect (n + i) v := by
  induction vs generalizing n with
  | nil => exact absurd h List.not_mem_nil
  | cons v vs ih =>
    rcases List.mem_append.1 h with h | h
    · exact ⟨0, v, rfl, h⟩
    · obtain ⟨i, w, hw, hx⟩ := ih h
      exact ⟨i + 1, w, by simpa using hw, by rwa [Nat.add_right_comm] at hx⟩

mutual

/-- Every violation is told at the place of a value that offends. -/
theorem showsIn_violations : (shape : Shape) → (place : Path) → (v : Value) →
    ∀ x ∈ shape.violations place v, ShowsIn place v x
  | .list item, place, v, x, h => by
    rw [Shape.violations.eq_def] at h
    rcases List.mem_append.1 h with h | h
    · exact showsIn_ownViolations h
    cases v with
    | array vs =>
      obtain ⟨i, v, hv, hx⟩ := mem_collectItems h
      exact (showsIn_violations item _ v x hx).item (by simpa using hv)
    | _ => exact absurd h List.not_mem_nil
  | .record required properties, place, v, x, h => by
    rw [Shape.violations.eq_def] at h
    rcases List.mem_append.1 h with h | h
    · exact showsIn_ownViolations h
    cases v with
    | object ms => exact showsIn_properties_violations properties place ms x h
    | _ => exact absurd h List.not_mem_nil
  | .text, place, v, x, h | .flag, place, v, x, h | .count, place, v, x, h => by
    rw [Shape.violations.eq_def] at h
    exact showsIn_ownViolations ((List.mem_append.1 h).resolve_right List.not_mem_nil)

theorem showsIn_properties_violations : (properties : Properties) → (place : Path) →
    (ms : List (String × Value)) →
    ∀ x ∈ properties.violations place ms, ShowsIn place (.object ms) x
  | .nil, _, _, _, h => absurd h List.not_mem_nil
  | .cons name shape rest, place, ms, x, h => by
    rw [Properties.violations] at h
    rcases List.mem_append.1 h with h | h
    · cases hv : ms.lookup name with
      | none =>
        rw [hv] at h
        exact absurd h List.not_mem_nil
      | some v =>
        rw [hv] at h
        exact (showsIn_violations shape _ v x h).member hv
    · exact showsIn_properties_violations rest place ms x h

end

end SchemaBoard.Reply
