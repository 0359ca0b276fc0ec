import Mathlib.Data.List.Induction
import SchemaBoard.Board.Display
import SchemaBoard.Proofs.Success

/-!
# Acts on a display

The owner of a display does four things with it, and every control of a card comes down to them: the
focus is moved, code is asked for once or afresh, and a ticket is settled. None of them changes what
is on show. Main statements: `act_cases`, `use_acts`.
-/
namespace SchemaBoard

open Remote (Service)

namespace Display

inductive Act where
  | press (id : String) (c : Control)
  | beginCode (id : String)
  | beginRefresh (id : String)
  | finishCode (t : Ticket) (reply : Except Reply.Failure String)

/-- The display after an act. An act that fails changes nothing. -/
def act (d : Display) : Act → Display
  | .press id c =>
    match d.move id c with
    | .ok e => e
    | .error _ => d
  | .beginCode id =>
    match d.beginCode id with
    | .ok (_, e) => e
    | .error _ => d
  | .beginRefresh id =>
    match d.beginRefresh id with
    | .ok (_, e) => e
    | .error _ => d
  | .finishCode t reply => (d.finishCode t reply).2

def acts (d : Display) (as : List Act) : Display := as.foldl act d

/-- What is done with a display when something succeeds is no more than acts. -/
def IsActs {α σ : Type} (f : Display → σ → Except ControlError (α × Display × σ)) : Prop :=
  ∀ d w a e v, f d w = .ok (a, e, v) → ∃ as, e = d.acts as

theorem move_ok {d e : Display} {id : String} {c : Control} (h : d.move id c = .ok e) :
    e = d.press id c := by
  obtain ⟨p, -, he⟩ := exists_of_map_ok h
  exact he.symm

theorem beginCode_ok {d e : Display} {id : String} {t : Option Ticket}
    (h : d.beginCode id = .ok (t, e)) : e = d.press id .code := by
  obtain ⟨p, -, he⟩ := exists_of_map_ok h
  exact (congrArg Prod.snd he).symm

theorem beginRefresh_ok {d e : Display} {id : String} {t : Ticket}
    (h : d.beginRefresh id = .ok (t, e)) :
    e = { d.press id .code with gallery := d.gallery.remove id } := by
  obtain ⟨p, -, he⟩ := exists_of_map_ok h
  exact (congrArg Prod.snd he).symm

/-- An act leads to the display with the focus moved, perhaps with another gallery, or it changes at
most the gallery. -/
theorem act_cases (d : Display) (a : Act) :
    ∃ g, d.act a = { d with gallery := g } ∨
      ∃ id c, d.act a = { d.press id c with gallery := g } := by
  cases a with
  | press id c =>
    cases h : d.move id c with
    | error e => exact ⟨d.gallery, .inl (by simp [act, h])⟩
    | ok e => exact ⟨d.gallery, .inr ⟨id, c, by simp [act, h, move_ok h, press]⟩⟩
  | beginCode id =>
    cases h : d.beginCode id with
    | error e => exact ⟨d.gallery, .inl (by simp [act, h])⟩
    | ok p => exact ⟨d.gallery, .inr ⟨id, .code, by simp [act, h, beginCode_ok h, press]⟩⟩
  | beginRefresh id =>
    cases h : d.beginRefresh id with
    | error e => exact ⟨d.gallery, .inl (by simp [act, h])⟩
    | ok p => exact ⟨d.gallery.remove id, .inr ⟨id, .code, by simp [act, h, beginRefresh_ok h]⟩⟩
  | finishCode t reply => exact ⟨_, .inl rfl⟩

/-- What is on show stays on show. -/
@[simp] theorem analysis_act (d : Display) (a : Act) : (d.act a).analysis = d.analysis := by
  obtain ⟨g, h | ⟨id, c, h⟩⟩ := act_cases d a
  · rw [h]
  · rw [h]
    rfl

theorem acts_append (d : Display) (as : List Act) (a : Act) :
    d.acts (as ++ [a]) = (d.acts as).act a := by
  simp [acts]

/-- What an act keeps is kept by all of them. -/
theorem acts_keep {P : Display → Prop} (hP : ∀ d a, P d → P (d.act a)) (d : Display)
    (as : List Act) (hd : P d) : P (d.acts as) := by
  induction as using List.reverseRecOn with
  | nil => exact hd
  | append_singleton as a ih =>
    rw [acts_append]
    exact hP _ a ih

variable {σ : Type}

/-- The request of a ticket is sent, and the ticket is settled with the reply. -/
theorem run_eq (s : Service σ) (t : Ticket) (d : Display) (w : σ) :
    (run s t d w).1 = d.act (.finishCode t (s.highlight w t.request).1) := rfl

theorem showCode_acts {s : Service σ} {id : String} {d e : Display} {w v : σ}
    (h : d.showCode s id w = .ok (e, v)) : ∃ as, e = d.acts as := by
  obtain ⟨⟨t, m⟩, hb, he⟩ := exists_of_map_ok h
  have hact : d.act (.beginCode id) = m := by simp [act, hb]
  cases t with
  | none =>
    have he : m = e := congrArg Prod.fst he
    exact ⟨[.beginCode id], by simp [acts, hact, he]⟩
  | some t =>
    have he : (run s t m w).1 = e := congrArg Prod.fst he
    rw [run_eq] at he
    exact ⟨[.beginCode id, .finishCode t (s.highlight w t.request).1], by simp [acts, hact, he]⟩

theorem refreshCode_acts {s : Service σ} {id : String} {d e : Display} {w v : σ}
    (h : d.refreshCode s id w = .ok (e, v)) : ∃ as, e = d.acts as := by
  obtain ⟨⟨t, m⟩, hb, he⟩ := exists_of_map_ok h
  have hact : d.act (.beginRefresh id) = m := by simp [act, hb]
  have he : (run s t m w).1 = e := congrArg Prod.fst he
  rw [run_eq] at he
  exact ⟨[.beginRefresh id, .finishCode t (s.highlight w t.request).1], by simp [acts, hact, he]⟩

theorem use_acts {s : Service σ} {id : String} {c : Control} {d e : Display} {w v : σ}
    (h : d.use s id c w = .ok (e, v)) : ∃ as, e = d.acts as := by
  have moved (k : Control) (hk : (d.move id k).map (·, w) = .ok (e, v)) : ∃ as, e = d.acts as := by
    obtain ⟨m, hm, he⟩ := exists_of_map_ok hk
    have he : m = e := congrArg Prod.fst he
    exact ⟨[.press id k], by simp [acts, act, hm, he]⟩
  cases c with
  | code => exact showCode_acts h
  | collapse => exact moved .collapse h
  | table => exact moved .table h

theorem isActs_use (s : Service σ) (id : String) (c : Control) :
    IsActs fun d w => (d.use s id c w).map fun p => ((), p) := by
  intro d w a e v h
  obtain ⟨p, hp, he⟩ := exists_of_map_ok h
  obtain rfl : p = (e, v) := congrArg Prod.snd he
  exact use_acts hp

theorem isActs_refreshCode (s : Service σ) (id : String) :
    IsActs fun d w => (d.refreshCode s id w).map fun p => ((), p) := by
  intro d w a e v h
  obtain ⟨p, hp, he⟩ := exists_of_map_ok h
  obtain rfl : p = (e, v) := congrArg Prod.snd he
  exact refreshCode_acts hp

theorem isActs_beginCode (id : String) :
    IsActs fun d (w : σ) => (d.beginCode id).map fun (t, e) => (t, e, w) := by
  intro d w a e v h
  obtain ⟨⟨t, m⟩, hb, he⟩ := exists_of_map_ok h
  have he : m = e := congrArg (·.2.1) he
  exact ⟨[.beginCode id], by simp [acts, act, hb, he]⟩

theorem isActs_beginRefresh (id : String) :
    IsActs fun d (w : σ) => (d.beginRefresh id).map fun (t, e) => (t, e, w) := by
  intro d w a e v h
  obtain ⟨⟨t, m⟩, hb, he⟩ := exists_of_map_ok h
  have he : m = e := congrArg (·.2.1) he
  exact ⟨[.beginRefresh id], by simp [acts, act, hb, he]⟩

theorem isActs_finishCode (t : Ticket) (reply : Except Reply.Failure String) :
    IsActs fun d (w : σ) => .ok ((d.finishCode t reply).1, (d.finishCode t reply).2, w) := by
  intro d w a e v h
  have he : (d.finishCode t reply).2 = e := congrArg (·.2.1) (Except.ok.inj h)
  exact ⟨[.finishCode t reply], by simp [acts, act, he]⟩

end Display
end SchemaBoard
