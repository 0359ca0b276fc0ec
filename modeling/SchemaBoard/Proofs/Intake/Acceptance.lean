import Mathlib.Data.List.DropRight
import Mathlib.Data.List.Forall2
import SchemaBoard.Intake.File

/-!
# Which files are taken in

The rule for names, told of the text of a name alone: the last piece between strokes that stands for
something is a stem, a dot and the extension of schema files in small letters or capitals. The rule
for sizes comes after it. Main statement: `check_by_rule`.
-/
namespace SchemaBoard.Intake

/-- A small letter or its capital, which stands 32 places before it. -/
def IsLetter (c d : Char) : Prop := c = d ∨ c.toNat + 32 = d.toNat

/-- A name that ends in a piece with the extension of schema files, pieces that are empty or a
single dot left aside. -/
def IsSchemaName (name : String) : Prop :=
  ∃ stem e, ((name.toList.splitOn '/').filter fun p => p ≠ [] ∧ p ≠ ['.']).getLast?
      = some (stem ++ '.' :: e) ∧
    stem ≠ [] ∧ '.' ∉ e ∧ List.Forall₂ IsLetter e ['p', 'r', 'i', 's', 'm', 'a']

/-! ## Pieces and extensions -/

theorem pieces_eq_splitOn (cs : List Char) : pieces cs = cs.splitOn '/' := by
  induction cs with
  | nil => rfl
  | cons c cs ih =>
    have some : cs.splitOn '/' ≠ [] := List.splitOnP_ne_nil _ _
    obtain ⟨p, ps, hp⟩ := List.exists_cons_of_ne_nil some
    have step : (c :: cs).splitOn '/' = if c = '/' then [] :: p :: ps else (c :: p) :: ps := by
      rw [List.splitOn, List.splitOnP_cons_eq_if_modifyHead, ← List.splitOn, hp]
      simp
    rw [pieces, ih, hp, step]

theorem extension?_append {stem e : List Char} (h : '.' ∉ e) :
    extension? (stem ++ '.' :: e) = if stem = [] then none else some e := by
  have tail : ((stem ++ '.' :: e).reverse.takeWhile (· ≠ '.')).reverse = e := by
    have free : ∀ c ∈ e.reverse, decide (c ≠ '.') = true :=
      fun c hc => decide_eq_true fun he => h (he ▸ List.mem_reverse.1 hc)
    rw [List.reverse_append, List.reverse_cons, List.append_assoc,
      List.takeWhile_append_of_pos free]
    simp
  have front : (stem ++ '.' :: e).take ((stem ++ '.' :: e).length - e.length - 1) = stem := by
    have size : (stem ++ '.' :: e).length - e.length - 1 = stem.length := by
      simp only [List.length_append, List.length_cons]
      omega
    rw [size, List.take_left]
  have shorter : e.length < (stem ++ '.' :: e).length := by
    simp only [List.length_append, List.length_cons]
    omega
  simp only [extension?, tail, front, shorter, true_and]
  by_cases hs : stem = [] <;> simp [hs]

theorem extension?_of_notMem {name : List Char} (h : '.' ∉ name) : extension? name = none := by
  have all : (name.reverse.takeWhile (· ≠ '.')).reverse = name :=
    List.rtakeWhile_eq_self_iff.2 fun c hc => decide_eq_true fun he => h (he ▸ hc)
  simp only [extension?, all]
  simp

/-- The extension of a name stands behind its last dot, and something stands before that dot. -/
theorem extension?_eq_some_iff {name e : List Char} :
    extension? name = some e ↔ ∃ stem, name = stem ++ '.' :: e ∧ stem ≠ [] ∧ '.' ∉ e := by
  constructor
  · intro h
    by_cases dot : '.' ∈ name
    · obtain ⟨back, front, hn, free⟩ := List.eq_append_cons_of_mem (List.mem_reverse.2 dot)
      have whole : name = front.reverse ++ '.' :: back.reverse := by
        rw [← List.reverse_reverse name, hn]
        simp
      rw [whole, extension?_append (by simpa using free)] at h
      split at h
      · cases h
      · rename_i stem
        obtain rfl := Option.some.inj h
        exact ⟨front.reverse, whole, stem, by simpa using free⟩
    · rw [extension?_of_notMem dot] at h
      cases h
  · rintro ⟨stem, rfl, some, free⟩
    rw [extension?_append free, if_neg some]

theorem pathExtension?_eq_some_iff {cs e : List Char} :
    pathExtension? cs = some e ↔
      ∃ c, (steps cs).getLast? = some c ∧ c ≠ ['.', '.'] ∧ extension? c = some e := by
  rw [pathExtension?, fileName?]
  cases (steps cs).getLast? with
  | none => simp
  | some c =>
    by_cases up : c = ['.', '.'] <;> simp [up]

/-! ## Letters -/

theorem toLower_eq_iff {c d : Char} (h : d.isLower = true) : c.toLower = d ↔ IsLetter c d := by
  have small : 97 ≤ d.toNat ∧ d.toNat ≤ 122 := by
    delta Char.isLower at h
    simpa [UInt32.le_iff_toNat_le] using h
  have same {a b : Char} : a = b ↔ a.toNat = b.toNat := by
    rw [Char.ext_iff, ← UInt32.toNat_inj]
    rfl
  by_cases capital : 65 ≤ c.toNat ∧ c.toNat ≤ 90
  · have lowered : c.toLower.toNat = c.toNat + 32 := by
      have hc : c.val ≥ 'A'.val ∧ c.val ≤ 'Z'.val := by
        simpa [UInt32.le_iff_toNat_le] using capital
      have hn : c.val.toNat = c.toNat := rfl
      delta Char.toLower
      simp only [hc, and_self, dite_true, Char.toNat, UInt32.toNat_add]
      simp
      omega
    rw [IsLetter, same, same, lowered]
    omega
  · have left : c.toLower = c := by
      have hc : ¬ (c.val ≥ 'A'.val ∧ c.val ≤ 'Z'.val) := by
        simpa [UInt32.le_iff_toNat_le] using capital
      delta Char.toLower
      rw [dif_neg hc]
    rw [left, IsLetter, same]
    omega

theorem map_toLower_eq_iff {e ds : List Char} (h : ∀ d ∈ ds, d.isLower = true) :
    e.map Char.toLower = ds ↔ List.Forall₂ IsLetter e ds := by
  induction ds generalizing e with
  | nil => simp
  | cons d ds ih =>
    cases e with
    | nil => simp
    | cons c e =>
      rw [List.map_cons, List.cons_eq_cons, List.forall₂_cons, ih fun k hk =>
        h k (List.mem_cons_of_mem d hk), toLower_eq_iff (h d List.mem_cons_self)]

theorem hasSchemaExtension_iff (name : String) :
    hasSchemaExtension name = true ↔ IsSchemaName name := by
  have small : ∀ d ∈ ['p', 'r', 'i', 's', 'm', 'a'], d.isLower = true :=
    List.all_eq_true.1 rfl
  have spelled (e : List Char) : e.map Char.toLower = schemaExtension.toList ↔
      List.Forall₂ IsLetter e ['p', 'r', 'i', 's', 'm', 'a'] := map_toLower_eq_iff small
  have found : hasSchemaExtension name = true ↔
      ∃ e, pathExtension? name.toList = some e ∧ e.map Char.toLower = schemaExtension.toList := by
    rw [hasSchemaExtension]
    cases pathExtension? name.toList <;> simp
  rw [found]
  constructor
  · rintro ⟨e, he, letters⟩
    obtain ⟨c, last, -, ext⟩ := pathExtension?_eq_some_iff.1 he
    obtain ⟨stem, rfl, some, free⟩ := extension?_eq_some_iff.1 ext
    rw [steps, pieces_eq_splitOn] at last
    exact ⟨stem, e, by simpa using last, some, free, (spelled e).1 letters⟩
  · rintro ⟨stem, e, last, some, free, letters⟩
    have name_not_up : stem ++ '.' :: e ≠ ['.', '.'] := by
      intro up
      have six := letters.length_eq
      have two := congrArg List.length up
      simp only [List.length_append, List.length_cons, List.length_nil] at six two
      omega
    refine ⟨e, pathExtension?_eq_some_iff.2 ⟨_, ?_, name_not_up,
      extension?_eq_some_iff.2 ⟨stem, rfl, some, free⟩⟩, (spelled e).2 letters⟩
    rw [steps, pieces_eq_splitOn]
    simpa using last

/-- A stroke behind a name, and pieces that stand for nothing, leave it as it is. -/
example : hasSchemaExtension "a/./b.x.PriSMA/./" = true := by decide +kernel

/-- A name that begins with its only dot has no extension. -/
example : hasSchemaExtension ".prisma" = false := by decide +kernel

/-- A file is taken in if and only if its name and its size fit. A name that does not fit is the
reason that is given whatever the size; the size is given as the reason only under a name that
fits, with the number of bytes and the limit. -/
theorem check_by_rule (f : File) :
    (f.check = .ok () ↔ IsSchemaName f.name ∧ f.contents.size ≤ 3145728) ∧
    (∀ n, f.check = .error (.extension n) ↔ ¬ IsSchemaName f.name ∧ n = f.name) ∧
    ∀ n bytes limit, f.check = .error (.size n bytes limit) ↔
      IsSchemaName f.name ∧ 3145728 < f.contents.size ∧
        n = f.name ∧ bytes = f.contents.size ∧ limit = 3145728 := by
  have greatest : sizeLimit = 3145728 := rfl
  rw [← hasSchemaExtension_iff, ← greatest, File.check]
  by_cases name : hasSchemaExtension f.name = true
  · by_cases size : sizeLimit < f.contents.size
    · simp [name, size, eq_comm]
    · simpa [name, size] using Nat.le_of_not_lt size
  · simp [name, eq_comm]

end SchemaBoard.Intake
