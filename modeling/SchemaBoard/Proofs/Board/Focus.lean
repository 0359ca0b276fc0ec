import Mathlib.Logic.Function.Basic
import SchemaBoard.Board.Focus

/-!
# One focus for all cards

A board keeps one focus and no modes. It behaves as if every card had a mode of its own: a card that
is expanded collapses all others, and a card that is collapsed leaves the others alone. A focus
shows such modes if it is on the card that is expanded, and on none if all are collapsed; every
control keeps it so. Main statement: `focus_acts_as_modes`.
-/
namespace SchemaBoard

/-- The modes of cards that each keep their own, by id. -/
abbrev Modes := String → Mode

namespace Modes

def allCollapsed : Modes := fun _ => .collapsed

/-- Use a control of a card: one that expands it collapses all others. -/
def use (modes : Modes) (id : String) (c : Control) : Modes :=
  match c with
  | .collapse => Function.update modes id .collapsed
  | .table => Function.update allCollapsed id .table
  | .code => Function.update allCollapsed id .code

/-- Controls of cards, used one after the other. -/
def run (modes : Modes) (steps : List (String × Control)) : Modes :=
  steps.foldl (fun modes s => modes.use s.1 s.2) modes

end Modes

/-- Controls of cards, used one after the other. -/
def pressAll (focus : Option Focus) (steps : List (String × Control)) : Option Focus :=
  steps.foldl (fun focus s => press focus s.1 s.2) focus

theorem press_collapse (focus : Option Focus) (id : String) :
    press focus id .collapse = focus.filter (·.id ≠ id) := rfl

/-- No control leaves the focus on a collapsed card. -/
theorem press_expanded {focus : Option Focus} (h : ∀ f, focus = some f → f.mode.isExpanded = true)
    (id : String) (c : Control) :
    ∀ f, press focus id c = some f → f.mode.isExpanded = true := by
  intro f hf
  cases c with
  | collapse =>
    rw [press_collapse] at hf
    exact h f (Option.filter_eq_some_iff.1 hf).1
  | table =>
    obtain rfl : ⟨id, .table⟩ = f := Option.some.inj hf
    rfl
  | code =>
    obtain rfl : ⟨id, .code⟩ = f := Option.some.inj hf
    rfl

theorem modeOf_some (f : Focus) (id : String) :
    modeOf (some f) id = if f.id = id then f.mode else .collapsed := rfl

/-- To collapse a card leaves the modes of the others as they are. -/
theorem modeOf_press_collapse (focus : Option Focus) (id k : String) :
    modeOf (press focus id .collapse) k = if k = id then .collapsed else modeOf focus k := by
  rw [press_collapse]
  cases focus with
  | none => simp
  | some f =>
    by_cases hf : f.id = id
    · have gone : (some f).filter (fun f => f.id ≠ id) = none := by simp [hf]
      rw [gone, modeOf_none, modeOf_some, hf]
      by_cases hk : k = id
      · simp [hk]
      · simp [hk, Ne.symm hk]
    · have kept : (some f).filter (fun f => f.id ≠ id) = some f := by simp [hf]
      rw [kept, modeOf_some]
      by_cases hk : k = id
      · simp [hk, hf]
      · simp [hk]

/-- The focus on one card stands for that card expanded and all others collapsed. -/
theorem modeOf_focus (id k : String) (m : Mode) :
    modeOf (some ⟨id, m⟩) k = Function.update Modes.allCollapsed id m k := by
  rw [modeOf_some, Function.update_apply]
  by_cases hk : k = id
  · simp [hk]
  · simp [hk, Ne.symm hk, Modes.allCollapsed]

/-- A focus shows the modes of all cards, and it is never on a collapsed one. -/
structure FocusShows (focus : Option Focus) (modes : Modes) : Prop where
  mode : ∀ id, modeOf focus id = modes id
  expanded : ∀ f, focus = some f → f.mode.isExpanded = true

namespace FocusShows

variable {focus : Option Focus} {modes : Modes}

theorem none : FocusShows none Modes.allCollapsed := by
  constructor
  · intro id
    rfl
  · intro f hf
    cases hf

theorem press (h : FocusShows focus modes) (id : String) (c : Control) :
    FocusShows (SchemaBoard.press focus id c) (modes.use id c) := by
  refine ⟨fun k => ?_, press_expanded h.expanded id c⟩
  cases c with
  | collapse =>
    rw [modeOf_press_collapse, h.mode k, Modes.use, Function.update_apply]
  | table => exact modeOf_focus id k .table
  | code => exact modeOf_focus id k .code

theorem pressAll (h : FocusShows focus modes) (steps : List (String × Control)) :
    FocusShows (SchemaBoard.pressAll focus steps) (modes.run steps) := by
  induction steps generalizing focus modes with
  | nil => exact h
  | cons s steps ih => exact ih (h.press s.1 s.2)

theorem mode_focus {f : Focus} (h : FocusShows (some f) modes) : modes f.id = f.mode := by
  rw [← h.mode f.id, modeOf_some, if_pos rfl]

theorem eq_none_iff (h : FocusShows focus modes) :
    focus = Option.none ↔ ∀ id, modes id = .collapsed := by
  constructor
  · rintro rfl id
    rw [← h.mode id, modeOf_none]
  · intro collapsed
    cases focus with
    | none => rfl
    | some f =>
      have expanded := h.expanded f rfl
      rw [← h.mode_focus, collapsed f.id] at expanded
      cases expanded

/-- The card in focus is wide, and it is the one that is expanded. -/
theorem wide_iff (h : FocusShows focus modes) (id : String) :
    Width.of focus id = .wide ↔ (modes id).isExpanded = true := by
  cases focus with
  | none =>
    rw [← h.mode id]
    simp [Width.of, Mode.isExpanded]
  | some f =>
    by_cases hf : f.id = id
    · subst hf
      simp [Width.of, h.mode_focus, h.expanded f rfl]
    · rw [← h.mode id, modeOf_some, if_neg hf]
      simp [Width.of, hf, Mode.isExpanded]

end FocusShows

/-- Whatever controls are used, of whatever cards, the mode that the focus gives to a card is the
one that it would have if every card kept its own; there is no focus exactly if all of these are
collapsed, and a card is wide exactly if its own mode is expanded. -/
theorem focus_acts_as_modes (steps : List (String × Control)) :
    (∀ id, modeOf (pressAll none steps) id = Modes.allCollapsed.run steps id) ∧
    (pressAll none steps = none ↔ ∀ id, Modes.allCollapsed.run steps id = .collapsed) ∧
    ∀ id, Width.of (pressAll none steps) id = .wide ↔
      (Modes.allCollapsed.run steps id).isExpanded = true := by
  have shows := FocusShows.none.pressAll steps
  exact ⟨shows.mode, shows.eq_none_iff, shows.wide_iff⟩

end SchemaBoard
