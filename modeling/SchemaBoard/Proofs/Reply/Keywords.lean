import Mathlib.Algebra.Order.Field.Power
import Mathlib.Data.Rat.Lemmas
import Mathlib.Tactic.Positivity
import SchemaBoard.Proofs.Reply.Admission

/-!
# Keywords of a document

What the document of a shape says, read as JSON Schema and without the shape: which part of the
document governs which value inside another, and which keywords of that part the value violates.
Main statement: `mem_violations_iff`, the violations of a shape are those of the keywords of its
document.
-/
namespace SchemaBoard

open Json

/-! ## What numbers mean -/

namespace Decimal.Binary64

def toRat (x : Binary64) : ℚ := (if x.negative then -1 else 1) * (x.mantissa * 2 ^ x.exponent)

theorem quotient_snd_ne_zero (x : Binary64) : x.quotient.2 ≠ 0 := by
  unfold quotient
  split
  · exact Nat.one_ne_zero
  · exact (Nat.two_pow_pos _).ne'

theorem quotient_eq (x : Binary64) :
    (x.quotient.1 : ℚ) / x.quotient.2 = x.mantissa * 2 ^ x.exponent := by
  unfold quotient twoTo
  split
  · rename_i h
    obtain ⟨n, hn⟩ := Int.eq_ofNat_of_zero_le h
    simp [hn]
  · rename_i h
    obtain ⟨n, hn⟩ := Int.exists_eq_neg_ofNat (Int.le_of_lt (Int.not_le.1 h))
    simp [hn, div_eq_mul_inv]

theorem isWhole_iff (x : Binary64) : x.isWhole = true ↔ ∃ z : ℤ, x.toRat = z := by
  have den := Rat.den_div_natCast_eq_one_iff x.quotient.1 x.quotient.2 x.quotient_snd_ne_zero
  rw [x.quotient_eq] at den
  have whole : x.isWhole = true ↔ ∃ z : ℤ, (x.mantissa * 2 ^ x.exponent : ℚ) = z := by
    simp only [isWhole, decide_eq_true_eq, ← Nat.dvd_iff_mod_eq_zero, ← den]
    constructor
    · intro h
      exact ⟨_, (Rat.coe_int_num_of_den_eq_one h).symm⟩
    · rintro ⟨z, hz⟩
      rw [hz, Rat.den_intCast]
  rw [whole, toRat]
  cases x.negative with
  | false => simp
  | true =>
    constructor
    · rintro ⟨z, hz⟩
      exact ⟨-z, by simp [hz]⟩
    · rintro ⟨z, hz⟩
      exact ⟨-z, by simp [← hz]⟩

theorem isNegative_iff (x : Binary64) : x.isNegative = true ↔ x.toRat < 0 := by
  have power : (0 : ℚ) < 2 ^ x.exponent := by positivity
  have magnitude : (0 : ℚ) < x.mantissa * 2 ^ x.exponent ↔ x.mantissa ≠ 0 := by
    rw [mul_pos_iff_of_pos_right power, Nat.cast_pos, Nat.pos_iff_ne_zero]
  cases hn : x.negative with
  | false =>
    have nonneg : (0 : ℚ) ≤ x.mantissa * 2 ^ x.exponent := by positivity
    simpa [isNegative, toRat, hn] using nonneg
  | true => simp [isNegative, toRat, hn, isZero, magnitude]

end Decimal.Binary64

namespace Json.Number

def toRat : Number → ℚ
  | .natural n => n.toNat
  | .negSucc n => -(n.toNat + 1)
  | .real x => x.toRat

theorem isWhole_iff (n : Number) : n.isWhole = true ↔ ∃ z : ℤ, n.toRat = z := by
  cases n with
  | natural n => exact iff_of_true rfl ⟨n.toNat, by simp [toRat]⟩
  | negSucc n => exact iff_of_true rfl ⟨-(n.toNat + 1), by simp [toRat]⟩
  | real x => exact x.isWhole_iff

theorem isNegative_iff (n : Number) : n.isNegative = true ↔ n.toRat < 0 := by
  cases n with
  | natural n => simp [isNegative, toRat]
  | negSucc n =>
    have below : -((n.toNat : ℚ) + 1) < 0 := by
      rw [neg_lt_zero]
      positivity
    exact iff_of_true rfl below
  | real x => exact x.isNegative_iff

@[simp] theorem toRat_ofNat_zero : (ofNat 0).toRat = 0 := by simp [ofNat, toRat]

end Json.Number

namespace Reply

/-! ## What documents say -/

/-- A value is of a type that goes by a name. A number is an integer by its value, however it is
written. -/
inductive HasType : String → Value → Prop
  | null : HasType "null" .null
  | boolean (b : Bool) : HasType "boolean" (.bool b)
  | number (n : Number) : HasType "number" (.number n)
  | integer (n : Number) (z : ℤ) (h : n.toRat = z) : HasType "integer" (.number n)
  | string (s : String) : HasType "string" (.string s)
  | array (vs : List Value) : HasType "array" (.array vs)
  | object (ms : List (String × Value)) : HasType "object" (.object ms)

/-- A value itself violates a keyword of a document. -/
inductive Violates (d : Value) : Value → Breach → Prop
  | type {v : Value} {t : String} (keyword : d.member? "type" = some (.string t))
      (h : ¬HasType t v) : Violates d v (.type v t)
  | missing {ms : List (String × Value)} {names : List Value} {name : String}
      (keyword : d.member? "required" = some (.array names)) (listed : .string name ∈ names)
      (h : ms.lookup name = none) : Violates d (.object ms) (.missing name)
  | minimum {n m : Number} (keyword : d.member? "minimum" = some (.number m))
      (h : n.toRat < m.toRat) : Violates d (.number n) (.minimum (.number n))

/-- The part of a document that speaks of what is at a segment: that of a property by its name, that
of items for all of them. -/
def part? (d : Value) : Segment → Option Value
  | .member name => (d.member? "properties").bind (·.member? name)
  | .item _ => d.member? "items"

/-- The part of a document that speaks of a place. -/
def partAt? : Path → Value → Option Value
  | [], d => some d
  | s :: p, d => (part? d s).bind (partAt? p)

/-- The value `w`, at the place `p` inside `v`, violates a keyword of the part of the document that
speaks of that place; the breach is `b`. -/
def Offends (d v : Value) (p : Path) (b : Breach) (w : Value) : Prop :=
  ∃ e, partAt? p d = some e ∧ valueAt? p v = some w ∧ Violates e w b

theorem offends_nil_iff {d v w : Value} {b : Breach} :
    Offends d v [] b w ↔ w = v ∧ Violates d v b := by
  constructor
  · rintro ⟨e, he, hw, h⟩
    obtain rfl := Option.some.inj he
    obtain rfl := Option.some.inj hw
    exact ⟨rfl, h⟩
  · rintro ⟨rfl, h⟩
    exact ⟨d, rfl, rfl, h⟩

theorem valueAt?_cons (s : Segment) (p : Path) (v : Value) :
    valueAt? (s :: p) v = (valueAt? [s] v).bind (valueAt? p) := by
  cases s with
  | member name => simp [valueAt?]
  | item i => cases v <;> simp [valueAt?]

theorem offends_cons_iff {d v w : Value} {s : Segment} {p : Path} {b : Breach} :
    Offends d v (s :: p) b w ↔
      ∃ part u, part? d s = some part ∧ valueAt? [s] v = some u ∧ Offends part u p b w := by
  simp only [Offends, partAt?, valueAt?_cons s p, Option.bind_eq_some_iff]
  constructor
  · rintro ⟨e, ⟨part, hd, he⟩, ⟨u, hv, hw⟩, h⟩
    exact ⟨part, u, hd, hv, e, he, hw, h⟩
  · rintro ⟨part, u, hd, hv, e, he, hw, h⟩
    exact ⟨e, ⟨part, hd, he⟩, ⟨u, hv, hw⟩, h⟩

/-! ## Documents of shapes -/

theorem hasType_iff (shape : Shape) (v : Value) :
    shape.hasType v = true ↔ HasType shape.typeName v := by
  constructor
  · intro h
    cases shape with
    | count =>
      cases v with
      | number n =>
        obtain ⟨z, hz⟩ := n.isWhole_iff.1 h
        exact .integer n z hz
      | _ => cases h
    | _ =>
      cases v <;> cases h
      constructor
  · intro h
    -- the name of the type is not a variable, so it is made one before the cases
    generalize ht : shape.typeName = t at h
    cases h with
    | integer n z hz =>
      have whole := n.isWhole_iff.2 ⟨z, hz⟩
      cases shape <;> simp_all [Shape.typeName, Shape.hasType]
    | _ => cases shape <;> simp_all [Shape.typeName, Shape.hasType]

theorem member?_type (shape : Shape) :
    shape.document.member? "type" = some (.string shape.typeName) := by
  cases shape <;> rfl

theorem required_record (required : List String) (properties : Properties) :
    (Shape.record required properties).document.member? "required" =
      some (.array (required.map .string)) :=
  rfl

theorem properties_record (required : List String) (properties : Properties) :
    (Shape.record required properties).document.member? "properties" =
      some (.object properties.documents) :=
  rfl

theorem member?_required {shape : Shape} {names : List Value} :
    shape.document.member? "required" = some (.array names) ↔
      ∃ required properties, shape = .record required properties ∧
        required.map .string = names := by
  cases shape <;> simp [Shape.document, Value.member?, List.lookup_cons]

theorem member?_minimum {shape : Shape} {m : Number} :
    shape.document.member? "minimum" = some (.number m) ↔ shape = .count ∧ m = .ofNat 0 := by
  cases shape <;> simp [Shape.document, Value.member?, List.lookup_cons, Value.nat, eq_comm]

theorem member?_properties {shape : Shape} {ps : Value} :
    shape.document.member? "properties" = some ps ↔
      ∃ required properties, shape = .record required properties ∧
        .object properties.documents = ps := by
  cases shape <;> simp [Shape.document, Value.member?, List.lookup_cons]

theorem member?_items {shape : Shape} {part : Value} :
    shape.document.member? "items" = some part ↔
      ∃ item, shape = .list item ∧ item.document = part := by
  cases shape <;> simp [Shape.document, Value.member?, List.lookup_cons]

theorem violates_type_iff {shape : Shape} {v w : Value} {t : String} :
    Violates shape.document v (.type w t) ↔
      w = v ∧ t = shape.typeName ∧ shape.hasType v = false := by
  rw [← Bool.not_eq_true, hasType_iff]
  constructor
  · intro h
    cases h with
    | type keyword h =>
      rw [member?_type, Option.some_inj, Value.string.injEq] at keyword
      exact ⟨rfl, keyword.symm, keyword ▸ h⟩
  · rintro ⟨rfl, rfl, h⟩
    exact .type (member?_type shape) h

theorem violates_missing_iff {shape : Shape} {v : Value} {name : String} :
    Violates shape.document v (.missing name) ↔
      ∃ required properties ms, shape = .record required properties ∧ v = .object ms ∧
        name ∈ required ∧ hasMember name ms = false := by
  constructor
  · intro h
    cases h with
    | missing keyword listed h =>
      obtain ⟨required, properties, rfl, rfl⟩ := member?_required.1 keyword
      refine ⟨required, properties, _, rfl, rfl, by simpa using listed, ?_⟩
      rw [← Bool.not_eq_true, hasMember_iff, h]
      simp
  · rintro ⟨required, properties, ms, rfl, rfl, listed, h⟩
    rw [← Bool.not_eq_true, hasMember_iff, ← Option.isSome_iff_exists,
      Option.not_isSome_iff_eq_none] at h
    exact .missing (member?_required.2 ⟨required, properties, rfl, rfl⟩) (by simpa using listed) h

theorem violates_minimum_iff {shape : Shape} {v w : Value} :
    Violates shape.document v (.minimum w) ↔
      shape = .count ∧ w = v ∧ ∃ n, v = .number n ∧ n.isNegative = true := by
  constructor
  · intro h
    cases h with
    | minimum keyword h =>
      obtain ⟨rfl, rfl⟩ := member?_minimum.1 keyword
      rw [Number.toRat_ofNat_zero] at h
      exact ⟨rfl, rfl, _, rfl, (Number.isNegative_iff _).2 h⟩
  · rintro ⟨rfl, rfl, n, rfl, h⟩
    refine .minimum (member?_minimum.2 ⟨rfl, rfl⟩) ?_
    rw [Number.toRat_ofNat_zero]
    exact n.isNegative_iff.1 h

/-- The violations of a value itself are those of the keywords of the document. -/
theorem mem_ownViolations_iff {shape : Shape} {place : Path} {v : Value} {x : Violation} :
    x ∈ shape.ownViolations place v ↔ x.path = place ∧ Violates shape.document v x.breach := by
  obtain ⟨p, b⟩ := x
  have typed : (⟨p, b⟩ : Violation) ∈
      (if shape.hasType v then [] else [⟨place, .type v shape.typeName⟩]) ↔
        p = place ∧ b = .type v shape.typeName ∧ shape.hasType v = false := by
    cases shape.hasType v <;> simp
  cases b with
  | type w t =>
    rw [violates_type_iff]
    cases shape <;> cases v <;> simp_all [Shape.ownViolations, and_assoc]
  | missing name =>
    rw [violates_missing_iff]
    cases shape <;> cases v <;> simp_all [Shape.ownViolations]
    all_goals grind
  | minimum w =>
    rw [violates_minimum_iff]
    cases shape <;> cases v <;> simp_all [Shape.ownViolations]
    all_goals grind

end Reply
end SchemaBoard
