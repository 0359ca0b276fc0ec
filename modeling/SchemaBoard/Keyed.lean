/-!
# Keyed lists

A list of keys with their values, in the order in which the keys first came. A key that is put again
keeps its place and gets the new value; `List.lookup` finds the value of a key.
-/
namespace SchemaBoard

abbrev Keyed (K V : Type) := List (K × V)

namespace Keyed

variable {K V : Type} [DecidableEq K]

/-- Set the value of a key: in place if the key is there, else at the end. -/
def put (k : K) (v : V) : Keyed K V → Keyed K V
  | [] => [(k, v)]
  | (l, w) :: rest => if l = k then (l, v) :: rest else (l, w) :: put k v rest

/-- Take a key out. -/
def remove (k : K) (m : Keyed K V) : Keyed K V := m.filter (·.1 ≠ k)

@[simp] theorem put_nil (k : K) (v : V) : put k v [] = [(k, v)] := rfl

theorem put_of_notMem (k : K) (v : V) (m : Keyed K V) (h : k ∉ m.map Prod.fst) :
    put k v m = m ++ [(k, v)] := by
  induction m with
  | nil => rfl
  | cons x rest ih =>
    obtain ⟨l, w⟩ := x
    simp only [List.map_cons, List.mem_cons, not_or] at h
    rw [put, if_neg (Ne.symm h.1), ih h.2, List.cons_append]

theorem mem_put {k : K} {v : V} {m : Keyed K V} {q : K × V} (h : q ∈ put k v m) :
    q ∈ m ∨ q = (k, v) := by
  induction m with
  | nil => exact .inr (List.mem_singleton.1 h)
  | cons p rest ih =>
    obtain ⟨l, w⟩ := p
    by_cases hl : l = k
    · subst hl
      simp only [put, if_true, List.mem_cons] at h
      rcases h with h | h
      · exact .inr h
      · exact .inl (List.mem_cons_of_mem _ h)
    · simp only [put, hl, if_false, List.mem_cons] at h
      rcases h with h | h
      · exact .inl (by simp [h])
      · rcases ih h with h | h
        · exact .inl (List.mem_cons_of_mem _ h)
        · exact .inr h

theorem mem_of_lookup {k : K} {v : V} {m : Keyed K V} (h : m.lookup k = some v) : (k, v) ∈ m := by
  obtain ⟨l₁, l₂, he, -⟩ := List.lookup_eq_some_iff.1 h
  simp [he]

/-- In a list with distinct keys every pair is found. -/
theorem lookup_of_mem {k : K} {v : V} {m : Keyed K V} (hm : (m.map Prod.fst).Nodup)
    (h : (k, v) ∈ m) : m.lookup k = some v := by
  induction m with
  | nil => cases h
  | cons x rest ih =>
    obtain ⟨fresh, hm⟩ := List.nodup_cons.1 hm
    rcases List.mem_cons.1 h with rfl | h
    · simp
    · have other : k ≠ x.1 := fun he => fresh (List.mem_map.2 ⟨_, h, he⟩)
      rw [List.lookup_cons, beq_eq_false_iff_ne.2 other]
      exact ih hm h

@[simp] theorem lookup_put_self (k : K) (v : V) (m : Keyed K V) :
    (put k v m).lookup k = some v := by
  induction m with
  | nil => simp
  | cons x rest ih =>
    obtain ⟨l, w⟩ := x
    by_cases h : l = k
    · simp [put, h]
    · simp [put, h, List.lookup_cons, beq_eq_false_iff_ne.2 (Ne.symm h), ih]

theorem lookup_put_of_ne {k j : K} (v : V) (m : Keyed K V) (h : j ≠ k) :
    (put k v m).lookup j = m.lookup j := by
  induction m with
  | nil => simp [List.lookup_cons, beq_eq_false_iff_ne.2 h]
  | cons x rest ih =>
    obtain ⟨l, w⟩ := x
    by_cases hl : l = k
    · subst hl
      simp [put, List.lookup_cons, beq_eq_false_iff_ne.2 h]
    · simp [put, hl, List.lookup_cons, ih]

@[simp] theorem lookup_remove_self (k : K) (m : Keyed K V) : (remove k m).lookup k = none := by
  simp only [remove, List.lookup_eq_none_iff, List.mem_filter, decide_eq_true_eq]
  rintro x ⟨_, h⟩
  simpa using Ne.symm h

theorem remove_of_notMem {k : K} {m : Keyed K V} (h : k ∉ m.map Prod.fst) : remove k m = m :=
  List.filter_eq_self.2 fun q hq => decide_eq_true fun he : q.1 = k =>
    h (List.mem_map.2 ⟨q, hq, he⟩)

theorem mem_remove {k : K} {m : Keyed K V} {q : K × V} : q ∈ remove k m ↔ q ∈ m ∧ q.1 ≠ k := by
  simp [remove]

theorem notMem_of_lookup {k : K} {m : Keyed K V} (h : m.lookup k = none) : k ∉ m.map Prod.fst := by
  intro hk
  obtain ⟨q, hq, rfl⟩ := List.mem_map.1 hk
  simpa using List.lookup_eq_none_iff.1 h q hq

theorem lookup_remove_of_ne {k j : K} (m : Keyed K V) (h : j ≠ k) :
    (remove k m).lookup j = m.lookup j := by
  induction m with
  | nil => rfl
  | cons x rest ih =>
    obtain ⟨l, w⟩ := x
    by_cases hl : l = k
    · subst hl
      have : remove l ((l, w) :: rest) = remove l rest := by simp [remove]
      rw [this, ih, List.lookup_cons, beq_eq_false_iff_ne.2 h]
    · have : remove k ((l, w) :: rest) = (l, w) :: remove k rest := by simp [remove, hl]
      rw [this, List.lookup_cons, List.lookup_cons, ih]

end Keyed
end SchemaBoard
