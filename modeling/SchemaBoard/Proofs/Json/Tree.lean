import Mathlib.Data.List.Nodup
import SchemaBoard.Proofs.Json.Numeral

/-!
# Trees and their values

What of a tree is seen in its value: the members by name, and which leaf a leaf came from. The value
of a tree has no two members of one name. Main statements: `Tree.member?_value`,
`Tree.distinct_value`.
-/
namespace SchemaBoard

namespace Keyed

variable {K V : Type} [DecidableEq K]

theorem fst_put (k : K) (v : V) (m : Keyed K V) :
    (put k v m).map Prod.fst
      = if k ∈ m.map Prod.fst then m.map Prod.fst else m.map Prod.fst ++ [k] := by
  induction m with
  | nil => simp
  | cons x rest ih =>
    obtain ⟨l, w⟩ := x
    by_cases h : l = k
    · simp [put, h]
    · simp only [put, h, if_false, List.map_cons, ih, List.mem_cons, Ne.symm h, false_or]
      split <;> simp

theorem nodup_put (k : K) (v : V) {m : Keyed K V} (h : (m.map Prod.fst).Nodup) :
    ((put k v m).map Prod.fst).Nodup := by
  rw [fst_put]
  split
  · exact h
  · rename_i hk
    exact List.nodup_append.2 ⟨h, List.nodup_singleton k, fun a ha b hb => by
      rintro rfl
      exact hk (List.mem_singleton.1 hb ▸ ha)⟩

theorem nodup_collect (pairs : List (K × V)) : ((collect pairs).map Prod.fst).Nodup := by
  have run (m : Keyed K V) (h : (m.map Prod.fst).Nodup) :
      ((pairs.foldl (fun m x => put x.1 x.2 m) m).map Prod.fst).Nodup := by
    induction pairs generalizing m with
    | nil => exact h
    | cons x rest ih => exact ih _ (nodup_put x.1 x.2 h)
  exact run [] List.nodup_nil

theorem collect_of_nodup {pairs : List (K × V)} (h : (pairs.map Prod.fst).Nodup) :
    collect pairs = pairs := by
  have run (pairs m : List (K × V)) (h : ((m ++ pairs).map Prod.fst).Nodup) :
      pairs.foldl (fun m x => put x.1 x.2 m) m = m ++ pairs := by
    induction pairs generalizing m with
    | nil => simp
    | cons x rest ih =>
      have fresh : x.1 ∉ m.map Prod.fst := by
        simp only [List.map_append, List.nodup_append] at h
        exact fun hm => h.2.2 _ hm x.1 (by simp) rfl
      rw [List.foldl_cons, put_of_notMem _ _ _ fresh, ih _ (by simpa using h)]
      simp
  exact run pairs [] h

theorem mem_of_mem_collect {pairs : List (K × V)} {x : K × V} : x ∈ collect pairs → x ∈ pairs := by
  have run (m : Keyed K V) : x ∈ pairs.foldl (fun m x => put x.1 x.2 m) m → x ∈ pairs ∨ x ∈ m := by
    induction pairs generalizing m with
    | nil => exact .inr
    | cons y rest ih =>
      intro h
      rcases ih _ h with h | h
      · exact .inl (List.mem_cons_of_mem _ h)
      · rcases mem_put h with h | rfl
        · exact .inr h
        · exact .inl List.mem_cons_self
  exact fun h => (run [] h).resolve_right List.not_mem_nil

/-- Of pairs with one key the last is found. -/
theorem lookup_collect (k : K) (pairs : List (K × V)) :
    (collect pairs).lookup k = pairs.reverse.lookup k := by
  have run (m : Keyed K V) : (pairs.foldl (fun m x => put x.1 x.2 m) m).lookup k
      = (pairs.reverse ++ m).lookup k := by
    induction pairs generalizing m with
    | nil => rfl
    | cons x rest ih =>
      obtain ⟨l, w⟩ := x
      rw [List.foldl_cons, ih, List.reverse_cons, List.append_assoc, List.lookup_append,
        List.lookup_append, List.singleton_append, List.lookup_cons]
      by_cases h : k = l
      · subst h
        simp
      · rw [lookup_put_of_ne w m h, beq_eq_false_iff_ne.2 h]
  rw [collect, run, List.append_nil]

end Keyed

namespace Json

/-- No object in the value has two members of one name. -/
inductive Value.Distinct : Value → Prop
  | null : Distinct .null
  | bool (b : Bool) : Distinct (.bool b)
  | number (n : Number) : Distinct (.number n)
  | string (s : String) : Distinct (.string s)
  | array {vs : List Value} : (∀ v ∈ vs, Distinct v) → Distinct (.array vs)
  | object {ms : List (String × Value)} : (ms.map Prod.fst).Nodup → (∀ m ∈ ms, Distinct m.2) →
      Distinct (.object ms)

/-- No object in the tree has two members of one name. -/
inductive Tree.Distinct : Tree → Prop
  | null : Distinct .null
  | bool (b : Bool) : Distinct (.bool b)
  | number (n : Numeral) : Distinct (.number n)
  | string (s : String) : Distinct (.string s)
  | array {ts : List Tree} : (∀ t ∈ ts, Distinct t) → Distinct (.array ts)
  | object {ms : List (String × Tree)} : (ms.map Prod.fst).Nodup → (∀ m ∈ ms, Distinct m.2) →
      Distinct (.object ms)

theorem Value.Distinct.items {vs : List Value} (h : (Value.array vs).Distinct) :
    ∀ v ∈ vs, v.Distinct := by
  cases h with
  | array items => exact items

theorem Value.Distinct.members {ms : List (String × Value)} (h : (Value.object ms).Distinct) :
    (ms.map Prod.fst).Nodup ∧ ∀ m ∈ ms, m.2.Distinct := by
  cases h with
  | object names values => exact ⟨names, values⟩

namespace Tree

theorem Distinct.items {ts : List Tree} (h : (Tree.array ts).Distinct) : ∀ t ∈ ts, t.Distinct := by
  cases h with
  | array items => exact items

theorem Distinct.members {ms : List (String × Tree)} (h : (Tree.object ms).Distinct) :
    (ms.map Prod.fst).Nodup ∧ ∀ m ∈ ms, m.2.Distinct := by
  cases h with
  | object names trees => exact ⟨names, trees⟩

theorem values_eq_map (ts : List Tree) : values ts = ts.map value := by
  induction ts with
  | nil => rfl
  | cons t ts ih => rw [values, ih, List.map_cons]

theorem members_eq_map (ms : List (String × Tree)) :
    members ms = ms.map fun m => (m.1, m.2.value) := by
  induction ms with
  | nil => rfl
  | cons m ms ih => rw [members, ih, List.map_cons]

theorem value_object_of_nodup {ms : List (String × Tree)} (h : (ms.map Prod.fst).Nodup) :
    (object ms).value = .object (ms.map fun m => (m.1, m.2.value)) := by
  rw [value, members_eq_map, Keyed.collect_of_nodup (by simpa [Function.comp_def] using h)]

mutual

theorem distinct_value : (t : Tree) → t.value.Distinct
  | .null => .null
  | .bool b => .bool b
  | .number n => .number n.number
  | .string s => .string s
  | .array ts => .array (distinct_values ts)
  | .object ms =>
    .object (Keyed.nodup_collect _) fun m hm => distinct_members ms m (Keyed.mem_of_mem_collect hm)

theorem distinct_values : (ts : List Tree) → ∀ v ∈ values ts, v.Distinct
  | [], _, hv => absurd hv List.not_mem_nil
  | t :: ts, v, hv => by
    rcases List.mem_cons.1 hv with rfl | hv
    · exact distinct_value t
    · exact distinct_values ts v hv

theorem distinct_members : (ms : List (String × Tree)) → ∀ m ∈ members ms, m.2.Distinct
  | [], _, hm => absurd hm List.not_mem_nil
  | (_, t) :: ms, m, hm => by
    rcases List.mem_cons.1 hm with rfl | hm
    · exact distinct_value t
    · exact distinct_members ms m hm

end

theorem lookup_map_value (name : String) (ms : List (String × Tree)) :
    (ms.map fun m => (m.1, m.2.value)).lookup name = (ms.lookup name).map value := by
  induction ms with
  | nil => rfl
  | cons m ms ih =>
    obtain ⟨n, t⟩ := m
    simp only [List.map_cons, List.lookup_cons, ih]
    split <;> rfl

/-- The member of a name in the value of a tree is the value of the last member of the name. -/
theorem member?_value (name : String) (t : Tree) :
    t.value.member? name = (t.member? name).map value := by
  cases t with
  | object ms =>
    simp only [value, Value.member?, member?, Keyed.lookup_collect, members_eq_map,
      ← List.map_reverse, lookup_map_value]
  | _ => rfl

theorem value_eq_string_iff {t : Tree} {s : String} : t.value = .string s ↔ t = .string s := by
  cases t <;> simp

theorem value_eq_bool_iff {t : Tree} {b : Bool} : t.value = .bool b ↔ t = .bool b := by
  cases t <;> simp

theorem value_eq_array_iff {t : Tree} {vs : List Value} :
    t.value = .array vs ↔ ∃ ts, t = .array ts ∧ ts.map value = vs := by
  cases t <;> simp [values_eq_map]

theorem number_eq_natural_iff {m : Numeral} {n : UInt64} :
    m.number = .natural n ↔ m.IsUnsigned n.toNat := by
  rw [← number?_eq_natural_iff, Numeral.number, Option.eq_some_iff_get_eq]
  exact ⟨fun h => ⟨m.inRange, h⟩, fun ⟨_, h⟩ => h⟩

theorem value_eq_natural_iff {t : Tree} {n : UInt64} :
    t.value = .number (.natural n) ↔ ∃ m : Numeral, t = .number m ∧ m.IsUnsigned n.toNat := by
  cases t <;> simp [number_eq_natural_iff]

end Tree
end Json
end SchemaBoard
