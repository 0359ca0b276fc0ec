import SchemaBoard.Proofs.Desk.Exclusion
import SchemaBoard.Proofs.Desk.Highlights

/-!
# Nothing is held that is not on show

The focus and the gallery of a display speak of models by their ids. Whatever happens at a desk,
these ids are on show: a control moves the focus only to a model that it has found, nothing hangs
but what came for a ticket of the analysis on show, and a reset leaves neither a focus nor anything
hanging. Main statement: `displays_stay_consistent`.
-/
namespace SchemaBoard

variable {σ X : Type}

theorem Gallery.isEmpty_of_contains {g : Gallery} (h : ∀ id, g.contains id = false) :
    g.isEmpty = true := by
  obtain ⟨items, generation⟩ := g
  cases items with
  | nil => rfl
  | cons item rest =>
    have first := h item.1
    simp [Gallery.contains, Gallery.get?] at first

namespace Display

/-- A model of this id is on show. -/
def OnShow (x : Display) (id : String) : Prop :=
  ∃ a, x.analysis = some a ∧ id ∈ a.models.map (·.id)

theorem OnShow.congr {x y : Display} {id : String} (h : x.OnShow id)
    (ha : y.analysis = x.analysis) : y.OnShow id := by
  unfold OnShow
  rw [ha]
  exact h

theorem onShow_of_model? {x : Display} {a : Analysis} {id : String} {m : Model}
    (ha : x.analysis = some a) (hm : a.model? id = some m) : x.OnShow id := by
  have mem : m ∈ a.models := List.mem_of_find?_eq_some hm
  exact ⟨a, ha, List.mem_map.2 ⟨m, mem, Analysis.model?_id hm⟩⟩

theorem onShow_of_find {x : Display} {id : String} {p : Model × String}
    (h : x.find id = .ok p) : x.OnShow id := by
  obtain ⟨m, schema⟩ := p
  obtain ⟨a, ha, hm, -⟩ := find_ok h
  exact onShow_of_model? ha hm

/-! ## The focus -/

/-- An act leaves the focus where it is, or moves it by a control of a model that is on show. -/
theorem focus_act (x : Display) (a : Act) :
    (x.act a).focus = x.focus ∨
      ∃ id c, x.OnShow id ∧ (x.act a).focus = SchemaBoard.press x.focus id c := by
  cases a with
  | press id c =>
    cases h : x.move id c with
    | error e => exact .inl (by simp [act, h])
    | ok e =>
      obtain ⟨p, found, rfl⟩ := exists_of_map_ok h
      exact .inr ⟨id, c, onShow_of_find found, by simp [act, h, press]⟩
  | beginCode id =>
    cases h : x.beginCode id with
    | error e => exact .inl (by simp [act, h])
    | ok p =>
      obtain ⟨q, found, rfl⟩ := exists_of_map_ok h
      exact .inr ⟨id, .code, onShow_of_find found, by simp [act, h, press]⟩
  | beginRefresh id =>
    cases h : x.beginRefresh id with
    | error e => exact .inl (by simp [act, h])
    | ok p =>
      obtain ⟨q, found, rfl⟩ := exists_of_map_ok h
      exact .inr ⟨id, .code, onShow_of_find found, by simp [act, h, press]⟩
  | finishCode t reply => exact .inl rfl

/-- A control takes the focus to its own card, if it takes it anywhere. -/
theorem press_eq_some {focus : Option Focus} {id : String} {c : Control} {f : Focus}
    (h : SchemaBoard.press focus id c = some f) : focus = some f ∨ f.id = id := by
  cases c with
  | collapse => exact .inl (Option.filter_eq_some_iff.1 h).1
  | table =>
    obtain rfl : ⟨id, .table⟩ = f := Option.some.inj h
    exact .inr rfl
  | code =>
    obtain rfl : ⟨id, .code⟩ = f := Option.some.inj h
    exact .inr rfl

/-- The model in focus is on show. -/
def FocusOnShow (x : Display) : Prop := ∀ f, x.focus = some f → x.OnShow f.id

theorem focusOnShow_hear (x : Display) (n : Notice Analysis) (h : x.FocusOnShow) :
    (x.hear n).FocusOnShow := by
  unfold Display.hear
  split
  · intro f hf
    cases hf
  · exact h

theorem focusOnShow_act (x : Display) (a : Act) (h : x.FocusOnShow) :
    (x.act a).FocusOnShow := by
  intro f hf
  apply OnShow.congr _ (analysis_act x a)
  rcases focus_act x a with same | ⟨id, c, shown, moved⟩
  · exact h f (same ▸ hf)
  · rw [moved] at hf
    rcases press_eq_some hf with old | rfl
    · exact h f old
    · exact shown

/-- What every notice and every act keeps holds throughout a career. -/
theorem Career.keep {P : Display → Prop} (fresh : P {}) (hear : ∀ x n, P x → P (x.hear n))
    (act : ∀ x a, P x → P (x.act a)) {ns : List Note} {x : Display} (c : Career ns x) : P x := by
  induction c with
  | fresh => exact fresh
  | hear c n ih => exact hear _ n ih
  | act c a own ih => exact act _ a ih

theorem Career.focusExpanded {ns : List Note} {x : Display} (c : Career ns x) :
    x.FocusExpanded :=
  c.keep focusExpanded_empty focusExpanded_hear focusExpanded_act

theorem Career.focusOnShow {ns : List Note} {x : Display} (c : Career ns x) : x.FocusOnShow := by
  apply c.keep _ focusOnShow_hear focusOnShow_act
  intro f hf
  cases hf

/-- As long as only expanded cards are in focus, they and no others are wide. -/
theorem width_eq_wide_iff {x : Display} (h : x.FocusExpanded) (id : String) :
    Width.of x.focus id = .wide ↔ (x.modeOf id).isExpanded = true := by
  unfold modeOf
  cases hf : x.focus with
  | none => simp [Width.of, Mode.isExpanded]
  | some f =>
    by_cases hid : f.id = id
    · simp [Width.of, SchemaBoard.modeOf, hid, h f hf]
    · simp [Width.of, SchemaBoard.modeOf, hid, Mode.isExpanded]

/-! ## The gallery -/

/-- What hangs came for a ticket of the analysis on show, and so for a model on show. -/
theorem Faithful.onShow {ns : List Note} {x : Display} (f : Faithful ns x) {id : String}
    (h : x.gallery.contains id = true) : x.OnShow id := by
  obtain ⟨html, hh⟩ := Option.isSome_iff_exists.1 h
  obtain ⟨t, code, issued, -, rfl, -⟩ := f.hung id html hh
  obtain ⟨a, m, ha, hm, -⟩ := (f.valid t issued).2
  exact onShow_of_model? ha hm

/-! ## Both together -/

/-- A display that holds on to nothing but what is on show. -/
structure Consistent (x : Display) : Prop where
  /-- The card in focus is expanded, and its model is on show. -/
  focus : ∀ f, x.focus = some f → f.mode.isExpanded = true ∧ x.OnShow f.id
  hung : ∀ id, x.gallery.contains id = true → x.OnShow id
  /-- With nothing on show there is neither a focus nor anything hanging. -/
  blank : x.analysis = none → x.focus = none ∧ x.gallery.isEmpty = true
  wide : ∀ id, Width.of x.focus id = .wide ↔ (x.modeOf id).isExpanded = true

theorem Career.consistent {ns : List Note} {x : Display} (c : Career ns x) : x.Consistent where
  focus f hf := ⟨c.focusExpanded f hf, c.focusOnShow f hf⟩
  hung _ h := c.faithful.onShow h
  blank none := by
    have nothing (id : String) : ¬x.OnShow id := by
      rintro ⟨a, ha, -⟩
      rw [none] at ha
      cases ha
    constructor
    · exact Option.eq_none_iff_forall_ne_some.2 fun f hf => nothing f.id (c.focusOnShow f hf)
    · apply Gallery.isEmpty_of_contains
      intro id
      exact Bool.eq_false_iff.2 fun h => nothing id (c.faithful.onShow h)
  wide := width_eq_wide_iff c.focusExpanded

end Display

namespace Desk

variable [Listener X Analysis]

/-- On any way of a desk, every display holds on to nothing but what is on show, as long as it
settles no tickets but its own. -/
theorem displays_stay_consistent {i : Nat} {ns : List Display.Note} {d : Desk σ X}
    (h : Watched i ns d) {x : Display} (hx : d.hub.shown i = some x) : x.Consistent :=
  (h.career.1 x hx).consistent

/-- The display in which a late reply came has the model on show in focus, and its code hangs. -/
theorem consistent_after_late_reply : ∃ x, lateAnswered.hub.shown 0 = some x ∧
    x.focus = some ⟨"m", .code⟩ ∧ x.gallery.contains "m" = true ∧ x.Consistent := by
  have hx : lateAnswered.hub.shown 0 = some ((showing "second" 2).acts lateActs) := rfl
  exact ⟨_, hx, rfl, rfl, displays_stay_consistent watched_lateAnswered hx⟩

end Desk
end SchemaBoard
