import Mathlib.Data.List.Basic

/-!
# Replacements, one after another and all at once

A list of replacements says which text stands for which character. They can be made one after
another, each over all that the ones before it have left, or all at once, in one pass. Main
statement: both write the same if no text that is put in holds a character that is replaced later
(`toList_inTurn`).
-/
namespace SchemaBoard.Text

open String.Slice (copy_slice_eq_iff_splits slice_eq_slice! splits_endPos_iff)
open String.Slice.Pattern (SearchStep ToForwardSearcher)
open String.Slice.Pattern.Model

/-- What is written for a character: the first text that stands for it, or else itself. -/
def written (rs : List (Char × String)) (c : Char) : List Char :=
  match rs.lookup c with
  | some text => text.toList
  | none => [c]

@[simp] theorem written_nil (c : Char) : written [] c = [c] := rfl

theorem written_cons (r : Char × String) (rs : List (Char × String)) (c : Char) :
    written (r :: rs) c = if c = r.1 then r.2.toList else written rs c := by
  obtain ⟨d, text⟩ := r
  by_cases same : c = d
  · simp [written, same]
  · simp [written, List.lookup_cons, beq_false_of_ne same, same]

theorem written_cases (rs : List (Char × String)) (c : Char) :
    (∃ r ∈ rs, r.1 = c ∧ written rs c = r.2.toList) ∨
      (∀ r ∈ rs, r.1 ≠ c) ∧ written rs c = [c] := by
  induction rs with
  | nil => simp
  | cons r rs ih =>
    by_cases same : c = r.1
    · exact .inl ⟨r, List.mem_cons_self, same.symm, by simp [written_cons, same]⟩
    · rw [written_cons, if_neg same]
      rcases ih with ⟨q, hq, text⟩ | ⟨others, self⟩
      · exact .inl ⟨q, List.mem_cons_of_mem r hq, text⟩
      · exact .inr ⟨List.forall_mem_cons.2 ⟨Ne.symm same, others⟩, self⟩

theorem written_eq_self {rs : List (Char × String)} {c : Char} (free : ∀ r ∈ rs, r.1 ≠ c) :
    written rs c = [c] := by
  rcases written_cases rs c with ⟨r, hr, same, -⟩ | ⟨-, self⟩
  · exact absurd same (free r hr)
  · exact self

theorem flatMap_written_eq_self {rs : List (Char × String)} {cs : List Char}
    (free : ∀ r ∈ rs, r.1 ∉ cs) : cs.flatMap (written rs) = cs := by
  induction cs with
  | nil => rfl
  | cons c cs ih =>
    have first : written rs c = [c] :=
      written_eq_self fun r hr same => free r hr (same ▸ List.mem_cons_self)
    have rest := ih fun r hr held => free r hr (List.mem_cons_of_mem c held)
    rw [List.flatMap_cons, first, rest, List.singleton_append]

section Search

variable {s : String.Slice} {c : Char}

/-- Text that a search passes over does not hold the character that is searched for. -/
theorem notMem_of_passed {p q : s.Pos} (ahead : p ≤ q)
    (passed : ∀ r, p ≤ r → r < q → ¬ MatchesAt c r) : c ∉ (s.slice p q ahead).copy.toList := by
  have chain : IsLongestMatchAtChain (fun d => d != c) p q := by
    refine CharPred.isLongestMatchAtChain_iff.2 ⟨ahead, fun r fromP toQ => ?_⟩
    have other : r.get (String.Slice.Pos.ne_endPos_of_lt toQ) ≠ c := fun same =>
      passed r fromP toQ (Char.matchesAt_iff.2 ⟨_, same⟩)
    simpa using other
  obtain ⟨_, others⟩ := CharPred.isLongestMatchAtChain_iff_toList.1 chain
  intro held
  simpa using others c held

/-- One step of a replacement: what was found gives way to the text, what was passed over stays. -/
def extend (text done : String) : SearchStep s → String
  | .matched _ _ => done ++ text
  | .rejected p q => done ++ (s.slice! p q).copy

theorem toList_foldl_extend {text : String} {p : s.Pos} {steps : List (SearchStep s)}
    (valid : IsValidSearchFrom c p steps) {front back : String} (here : p.Splits front back)
    (done : String) :
    (steps.foldl (extend text) done).toList =
      done.toList ++ back.toList.flatMap (written [(c, text)]) := by
  induction valid generalizing front back done with
  | endPos =>
    obtain ⟨-, rfl⟩ := splits_endPos_iff.1 here
    simp
  | matched found _ ih =>
    obtain ⟨inside, rfl, same⟩ := Char.isLongestMatchAt_iff.1 found
    obtain ⟨back, rfl⟩ := here.exists_eq_singleton_append inside
    rw [List.foldl_cons, ih here.next]
    simp [extend, written_cons, same]
  | @mismatched steps p q before passed _ ih =>
    have ahead := Std.le_of_lt before
    obtain ⟨_, back, here', there⟩ := copy_slice_eq_iff_splits.1 ⟨ahead, rfl⟩
    obtain ⟨rfl, rfl⟩ := here.eq here'
    have kept : (s.slice p q ahead).copy.toList.flatMap (written [(c, text)]) =
        (s.slice p q ahead).copy.toList :=
      flatMap_written_eq_self (by simpa using notMem_of_passed ahead passed)
    rw [List.foldl_cons, ih there, extend, ← slice_eq_slice! (h := ahead)]
    simp [kept]

end Search

theorem replace_eq_foldl (s : String) (c : Char) (text : String) :
    s.replace c text =
      (ToForwardSearcher.toSearcher c s.toSlice).toList.foldl (extend text) "" := by
  rw [String.replace, String.Slice.replace, ← Std.Iter.foldl_toList]
  congr 1
  funext done step
  cases step with
  | rejected p q => rfl
  | matched p q => simp [extend, String.appendSlice_eq, String.ToSlice.toSlice]

theorem toList_replace (s : String) (c : Char) (text : String) :
    (s.replace c text).toList = s.toList.flatMap (written [(c, text)]) := by
  have valid : IsValidSearchFrom c s.toSlice.startPos
      (ToForwardSearcher.toSearcher c s.toSlice).toList :=
    LawfulToForwardSearcherModel.isValidSearchFrom_toList s.toSlice
  rw [replace_eq_foldl, toList_foldl_extend valid s.toSlice.splits_startPos ""]
  simp

/-- Make the replacements one after another. -/
def inTurn (rs : List (Char × String)) (s : String) : String :=
  rs.foldl (fun s r => s.replace r.1 r.2) s

/-- No text that is put in holds a character that is replaced later. -/
def IsOrdered (rs : List (Char × String)) : Prop := rs.Pairwise fun r q => q.1 ∉ r.2.toList

/-- What the first replacement puts in is left alone by those behind it. -/
theorem flatMap_written_cons {r : Char × String} {rs : List (Char × String)}
    (apart : ∀ q ∈ rs, q.1 ∉ r.2.toList) (c : Char) :
    (written [r] c).flatMap (written rs) = written (r :: rs) c := by
  by_cases same : c = r.1
  · simp [written_cons, same, flatMap_written_eq_self apart]
  · simp [written_cons, same]

/-- Replacements in order come to one pass over the text. -/
theorem toList_inTurn {rs : List (Char × String)} (ordered : IsOrdered rs) (s : String) :
    (inTurn rs s).toList = s.toList.flatMap (written rs) := by
  induction rs generalizing s with
  | nil => exact (flatMap_written_eq_self (List.forall_mem_nil _)).symm
  | cons r rs ih =>
    obtain ⟨apart, later⟩ := List.pairwise_cons.1 ordered
    calc (inTurn (r :: rs) s).toList
        = (inTurn rs (s.replace r.1 r.2)).toList := rfl
      _ = (s.toList.flatMap (written [r])).flatMap (written rs) := by rw [ih later, toList_replace]
      _ = s.toList.flatMap (written (r :: rs)) := by
        rw [List.flatMap_assoc]
        simp only [flatMap_written_cons apart]

-- The order counts: the ampersand of a reference is replaced again if its turn comes later.
example : ("<".toList.flatMap (written [('<', "&lt;")])).flatMap (written [('&', "&amp;")]) =
    "&amp;lt;".toList := by decide

end SchemaBoard.Text
