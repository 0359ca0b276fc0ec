import Mathlib.Data.List.Basic
import Mathlib.Logic.Function.Basic

/-!
# Writings that show where they end

A way of writing is delimited if what is written shows where it ends, whatever follows: two writings
that go on alike are the same. Parts that are delimited make up delimited wholes: one after the
other, or in a list that ends with something that no item begins with.
-/
namespace SchemaBoard.Text

variable {α β : Type}

/-- Whatever follows, it shows what was written and where that ends. -/
def IsDelimited (f : α → List Char) : Prop :=
  ∀ a b x y, f a ++ x = f b ++ y → a = b ∧ x = y

/-- Texts without a character end where it follows. -/
theorem append_cons_inj {c : Char} {u v x y : List Char} (hu : c ∉ u) (hv : c ∉ v)
    (e : u ++ c :: x = v ++ c :: y) : u = v ∧ x = y := by
  induction u generalizing v with
  | nil =>
    cases v with
    | nil => exact ⟨rfl, (List.cons.inj e).2⟩
    | cons d v =>
      obtain ⟨rfl, -⟩ := List.cons.inj e
      exact absurd List.mem_cons_self hv
  | cons d u ih =>
    obtain ⟨hd, hu⟩ := not_or.1 (mt List.mem_cons.2 hu)
    cases v with
    | nil => exact absurd (List.cons.inj e).1.symm hd
    | cons k v =>
      obtain ⟨rfl, tails⟩ := List.cons.inj e
      obtain ⟨rfl, rfl⟩ := ih hu (fun h => hv (List.mem_cons_of_mem _ h)) tails
      exact ⟨rfl, rfl⟩

namespace IsDelimited

variable {f : α → List Char} {g : β → List Char}

/-- What is delimited by a character that it does not hold. -/
theorem upTo {c : Char} (inj : Function.Injective f) (free : ∀ a, c ∉ f a) :
    IsDelimited fun a => f a ++ [c] := by
  intro a b x y e
  simp only [List.append_assoc, List.singleton_append] at e
  obtain ⟨same, rest⟩ := append_cons_inj (free a) (free b) e
  exact ⟨inj same, rest⟩

/-- Something may stand before what is delimited. -/
theorem cons (hf : IsDelimited f) (cs : List Char) : IsDelimited fun a => cs ++ f a := by
  intro a b x y e
  simp only [List.append_assoc, List.append_cancel_left_eq] at e
  exact hf a b x y e

/-- Something may stand behind what is delimited. -/
theorem concat (hf : IsDelimited f) (cs : List Char) : IsDelimited fun a => f a ++ cs := by
  intro a b x y e
  simp only [List.append_assoc] at e
  obtain ⟨same, rest⟩ := hf a b _ _ e
  exact ⟨same, List.append_cancel_left rest⟩

theorem append (hf : IsDelimited f) (hg : IsDelimited g) :
    IsDelimited fun p : α × β => f p.1 ++ g p.2 := by
  rintro ⟨a, b⟩ ⟨c, d⟩ x y e
  simp only [List.append_assoc] at e
  obtain ⟨rfl, behind⟩ := hf a c _ _ e
  obtain ⟨rfl, rfl⟩ := hg b d x y behind
  exact ⟨rfl, rfl⟩

theorem comp (hf : IsDelimited f) {h : β → α} (inj : Function.Injective h) :
    IsDelimited fun b => f (h b) := by
  intro a b x y e
  obtain ⟨same, rest⟩ := hf _ _ x y e
  exact ⟨inj same, rest⟩

/-- One of two writings of which neither begins with the other. -/
theorem ofBool {s t : List Char} (apart : ∀ x y, s ++ x ≠ t ++ y) :
    IsDelimited fun b : Bool => if b then s else t := by
  intro a b x y e
  cases a <;> cases b
  · exact ⟨rfl, List.append_cancel_left e⟩
  · exact absurd e.symm (apart y x)
  · exact absurd e (apart x y)
  · exact ⟨rfl, List.append_cancel_left e⟩

/-- A list ends where none of its items can begin. -/
theorem items (hf : IsDelimited f) {stop : List Char} (apart : ∀ a x y, f a ++ x ≠ stop ++ y) :
    IsDelimited fun as : List α => as.flatMap f ++ stop := by
  intro as
  induction as with
  | nil =>
    intro bs x y e
    cases bs with
    | nil => exact ⟨rfl, List.append_cancel_left e⟩
    | cons b bs =>
      simp only [List.flatMap_nil, List.nil_append, List.flatMap_cons, List.append_assoc] at e
      exact absurd e.symm (apart b _ _)
  | cons a as ih =>
    intro bs x y e
    cases bs with
    | nil =>
      simp only [List.flatMap_nil, List.nil_append, List.flatMap_cons, List.append_assoc] at e
      exact absurd e (apart a _ _)
    | cons b bs =>
      simp only [List.flatMap_cons, List.append_assoc] at e
      obtain ⟨rfl, behind⟩ := hf a b _ _ e
      obtain ⟨rfl, rfl⟩ := ih bs x y (by simpa only [List.append_assoc] using behind)
      exact ⟨rfl, rfl⟩

/-- A list that is all there is ends where the text does. -/
theorem flatMap_injective (hf : IsDelimited f) (held : ∀ a, f a ≠ []) :
    Function.Injective fun as : List α => as.flatMap f := by
  intro as
  induction as with
  | nil =>
    intro bs e
    cases bs with
    | nil => rfl
    | cons b bs => exact absurd (List.append_eq_nil_iff.1 e.symm).1 (held b)
  | cons a as ih =>
    intro bs e
    cases bs with
    | nil => exact absurd (List.append_eq_nil_iff.1 e).1 (held a)
    | cons b bs =>
      obtain ⟨rfl, rest⟩ := hf a b _ _ e
      rw [ih rest]

end IsDelimited
end SchemaBoard.Text
