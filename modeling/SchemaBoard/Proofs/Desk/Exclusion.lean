import SchemaBoard.Proofs.Board.Focus
import SchemaBoard.Proofs.Desk.Invariant

/-!
# How many cards are expanded

The focus is on an id, and every card whose model has that id is expanded and wide. So at most one
card stands out exactly as long as the id in focus belongs to at most one model on show; nothing
keeps a service from sending two models of one id. Main statement: `expanded_at_most_once_iff`.
-/
namespace SchemaBoard

variable {σ X : Type}

namespace Display

/-- Focus is on a table or on code, never on a collapsed card. -/
def FocusExpanded (x : Display) : Prop := ∀ f, x.focus = some f → f.mode.isExpanded = true

/-- The number of models on show that the focus is on. -/
def focused (x : Display) (a : Analysis) : Nat :=
  match x.focus with
  | some f => a.models.countP fun m => m.id = f.id
  | none => 0

theorem focusExpanded_empty : FocusExpanded {} := by
  intro f hf
  cases hf

theorem focusExpanded_hear (x : Display) (n : Notice Analysis) (h : x.FocusExpanded) :
    (x.hear n).FocusExpanded := by
  unfold Display.hear
  split
  · intro f hf
    cases hf
  · exact h

theorem focusExpanded_act (x : Display) (a : Act) (h : x.FocusExpanded) :
    (x.act a).FocusExpanded := by
  obtain ⟨g, e | ⟨id, c, e⟩⟩ := act_cases x a
  · rw [e]
    exact h
  · rw [e]
    exact press_expanded h id c

theorem isExpanded_card {x : Display} (h : x.FocusExpanded) (m : Model) :
    (x.card m).mode.isExpanded = x.focus.any fun f => m.id = f.id := by
  cases hf : x.focus with
  | none => simp [card, Model.card, modeOf, SchemaBoard.modeOf, hf, Mode.isExpanded]
  | some f =>
    have he := h f hf
    by_cases hm : m.id = f.id
    · simp [card, Model.card, modeOf, SchemaBoard.modeOf, hf, hm, he]
    · simp [card, Model.card, modeOf, SchemaBoard.modeOf, hf, hm, Ne.symm hm, Mode.isExpanded]

theorem isWide_card (x : Display) (m : Model) :
    decide ((x.card m).width = .wide) = x.focus.any fun f => m.id = f.id := by
  cases hf : x.focus with
  | none => simp [card, Model.card, Width.of, hf]
  | some f =>
    by_cases hm : m.id = f.id
    · simp [card, Model.card, Width.of, hf, hm]
    · simp [card, Model.card, Width.of, hf, hm, Ne.symm hm]

theorem countP_focus (x : Display) (a : Analysis) :
    (a.models.countP fun m => x.focus.any fun f => m.id = f.id) = x.focused a := by
  unfold focused
  cases x.focus with
  | none => simp
  | some f => rfl

/-- As many cards are expanded as there are models in focus, and as many are wide. -/
theorem countP_cards {x : Display} (h : x.FocusExpanded) (a : Analysis) :
    (a.models.map x.card).countP (·.mode.isExpanded) = x.focused a ∧
      (a.models.map x.card).countP (·.width = .wide) = x.focused a := by
  rw [List.countP_map, List.countP_map, ← countP_focus]
  constructor
  · exact List.countP_congr fun m _ => by simp only [Function.comp_apply, isExpanded_card h]
  · exact List.countP_congr fun m _ => by simp only [Function.comp_apply, isWide_card]

/-- At most one model is in focus exactly if the id in focus is that of at most one. -/
theorem focused_le_one_iff (x : Display) (a : Analysis) :
    x.focused a ≤ 1 ↔ ∀ f, x.focus = some f → (a.models.countP fun m => m.id = f.id) ≤ 1 := by
  unfold focused
  cases x.focus with
  | none => simp
  | some f => simp

theorem countP_id (a : Analysis) (id : String) :
    (a.models.countP fun m => m.id = id) = (a.models.map (·.id)).count id := by
  rw [List.count_eq_countP, List.countP_map]
  exact List.countP_congr fun m _ => by simp

/-- A control of a card that is on show puts the focus on it. -/
theorem focus_press {x : Display} {a : Analysis} (ha : x.analysis = some a) {id : String}
    (hid : id ∈ a.models.map (·.id)) :
    (x.acts [.press id .table]).focus = some ⟨id, .table⟩ := by
  obtain ⟨m, hm⟩ : ∃ m, a.model? id = some m := by
    obtain ⟨m, hm, he⟩ := List.mem_map.1 hid
    exact Option.isSome_iff_exists.1 (List.find?_isSome.2 ⟨m, hm, by simpa using he⟩)
  simp [acts, act, move, find, ha, hm, Except.map, press, SchemaBoard.press, Control.target]

/-- Whatever is done with a display, at most one card is expanded and at most one is wide, exactly
if no two models on show share an id. -/
theorem exclusive_iff_nodup {x : Display} (h : x.FocusExpanded) {a : Analysis}
    (ha : x.analysis = some a) :
    (∀ as cards, (x.acts as).cards = some cards →
      cards.countP (·.mode.isExpanded) ≤ 1 ∧ cards.countP (·.width = .wide) ≤ 1) ↔
      (a.models.map (·.id)).Nodup := by
  have hs (as : List Act) : (x.acts as).analysis = some a :=
    acts_keep (P := fun x => x.analysis = some a)
      (fun d b hd => (analysis_act d b).trans hd) x as ha
  have hf (as : List Act) : (x.acts as).FocusExpanded := acts_keep focusExpanded_act x as h
  constructor
  · intro he
    rw [List.nodup_iff_count]
    intro id
    by_cases hid : id ∈ a.models.map (·.id)
    · have hc := (he [.press id .table] (a.models.map (x.acts [.press id .table]).card)
        (by simp only [cards, hs, Option.map_some])).1
      rw [(countP_cards (hf _) a).1, focused, focus_press ha hid] at hc
      rwa [← countP_id]
    · rw [List.count_eq_zero_of_not_mem hid]
      omega
  · intro hn as cards hc
    simp only [Display.cards, hs, Option.map_some, Option.some.injEq] at hc
    obtain ⟨hm, hw⟩ := countP_cards (hf as) a
    have hle : (x.acts as).focused a ≤ 1 := by
      rw [focused_le_one_iff]
      intro f _
      rw [countP_id]
      exact List.nodup_iff_count.1 hn f.id
    rw [← hc, hm, hw]
    exact ⟨hle, hle⟩

end Display

namespace Desk

variable [Listener X Analysis]

theorem focusExpanded_course {w : σ} {d : Desk σ X} {as : List (Act X)}
    (c : Course (start w) as d) {name : String} {x : Display} (hx : d.display? name = some x) :
    x.FocusExpanded :=
  displays_course (P := Display.FocusExpanded) Display.focusExpanded_empty
    Display.focusExpanded_hear Display.focusExpanded_act c hx

/-- On any course of a desk, at most one card of a display is expanded exactly if the id in focus is
that of at most one model on show, and so it is with wide cards. That this stays so whatever is done
with the display is the case exactly if no two models on show share an id. -/
theorem expanded_at_most_once_iff {w : σ} {d : Desk σ X} {as : List (Act X)}
    (c : Course (start w) as d) {name : String} {x : Display} (hx : d.display? name = some x)
    {a : Analysis} (ha : x.analysis = some a) :
    (∃ cards, x.cards = some cards ∧
      (cards.countP (·.mode.isExpanded) ≤ 1 ↔
        ∀ f, x.focus = some f → (a.models.countP fun m => m.id = f.id) ≤ 1) ∧
      (cards.countP (·.width = .wide) ≤ 1 ↔
        ∀ f, x.focus = some f → (a.models.countP fun m => m.id = f.id) ≤ 1)) ∧
    ((∀ as cards, (x.acts as).cards = some cards →
      cards.countP (·.mode.isExpanded) ≤ 1 ∧ cards.countP (·.width = .wide) ≤ 1) ↔
      (a.models.map (·.id)).Nodup) := by
  have hf := focusExpanded_course c hx
  obtain ⟨hm, hw⟩ := Display.countP_cards hf a
  refine ⟨⟨a.models.map x.card, by simp [Display.cards, ha], ?_, ?_⟩,
    Display.exclusive_iff_nodup hf ha⟩
  · rw [hm]
    exact x.focused_le_one_iff a
  · rw [hw]
    exact x.focused_le_one_iff a

/-! ## Two models of one id -/

def twins : Analysis := ⟨"s", [⟨"a", "A", {}, [], ""⟩, ⟨"a", "B", {}, [], ""⟩]⟩

def twinsLanding : Desk Unit Empty := ((start ()).begin.2).finished 1 (.ok twins)

def twinsShown : Desk Unit Empty := { twinsLanding with hub := Hub.advance 10 twinsLanding.hub }

/-- The display of the twins before anything is done with it. -/
def twinsDisplay : Display := { analysis := some twins, gallery := Gallery.clear {} }

def twinsExpanded : Desk Unit Empty :=
  twinsShown.setDisplay mainName (twinsDisplay.act (.press "a" .table))

theorem course_twinsExpanded : Course (start ()) (([.begin, .finish 1 (.ok twins)] ++
    (Hub.beats 10 twinsLanding.hub).map .beat) ++ [.control mainName (.press "a" .table)])
    twinsExpanded :=
  (((Course.of_move (.begin (start ()))).move (.finish _ 1 (.ok twins))).trans
    (course_advance twinsLanding 10)).move
      (.control twinsShown (x := twinsDisplay) (.press "a" .table) (by decide))

/-- With two models of one id, both of their cards are expanded and wide. -/
theorem twins_both_expanded : ∃ x cards, twinsExpanded.display? mainName = some x ∧
    x.cards = some cards ∧ ¬ cards.countP (·.mode.isExpanded) ≤ 1 ∧
    ¬ cards.countP (·.width = .wide) ≤ 1 := by
  have hx : twinsExpanded.display? mainName = some (twinsDisplay.act (.press "a" .table)) := by
    decide
  have two : ¬ ∀ f, (twinsDisplay.act (.press "a" .table)).focus = some f →
      (twins.models.countP fun m => m.id = f.id) ≤ 1 := by
    intro h
    exact absurd (h ⟨"a", .table⟩ (by decide)) (by decide)
  obtain ⟨⟨cards, hc, hm, hw⟩, -⟩ := expanded_at_most_once_iff course_twinsExpanded hx
    (a := twins) (by decide)
  exact ⟨_, cards, hx, hc, fun h => two (hm.1 h), fun h => two (hw.1 h)⟩

end Desk
end SchemaBoard
