import SchemaBoard.Proofs.Board.Career
import SchemaBoard.Proofs.Board.Focus

/-!
# Controls that are refused

Whatever is asked of a display about a model, the model is looked up first. To say what a refusal
leaves behind, every operation is also carried out in place: the display, the service and the record
of what was sent are changed one thing at a time, and a failure leaves them as they are when it
comes. In place or at once, an operation comes to the same. Main statement: `refused_unchanged`.
-/
namespace SchemaBoard

open Remote (Service)

variable {σ : Type}

/-- A display at work, with the service and what was sent to it. -/
structure Scene (σ : Type) where
  display : Display
  service : σ
  sent : List HighlightRequest

/-- Work on a scene, one change after the other. A failure undoes nothing. -/
abbrev InPlace (σ : Type) := EStateM ControlError (Scene σ)

namespace InPlace

def find (id : String) : InPlace σ (Model × String) := do
  match (← get).display.find id with
  | .ok found => return found
  | .error e => throw e

def press (id : String) (c : Control) : InPlace σ Unit :=
  modify fun x => { x with display := x.display.press id c }

def takeDown (id : String) : InPlace σ Unit :=
  modify fun x => { x with display.gallery := x.display.gallery.remove id }

/-- Send the request of a ticket and settle it with the reply. -/
def send (s : Service σ) (t : Ticket) : InPlace σ Unit :=
  modify fun x =>
    let (reply, w) := s.highlight x.service t.request
    ⟨(x.display.finishCode t reply).2, w, x.sent ++ [t.request]⟩

def beginCode (id : String) : InPlace σ (Option Ticket) := do
  let (m, schema) ← find id
  press id .code
  let gallery := (← get).display.gallery
  if gallery.contains id then return none
  return some (gallery.ticket m schema)

def beginRefresh (id : String) : InPlace σ Ticket := do
  let (m, schema) ← find id
  press id .code
  takeDown id
  return (← get).display.gallery.ticket m schema

def showCode (s : Service σ) (id : String) : InPlace σ Unit := do
  if let some t ← beginCode id then send s t

def refreshCode (s : Service σ) (id : String) : InPlace σ Unit := do
  send s (← beginRefresh id)

def use (s : Service σ) (id : String) : Control → InPlace σ Unit
  | .code => showCode s id
  | c => do
    let _ ← find id
    press id c

end InPlace

/-- What can be asked of a display about a model. To collapse a card and to show its table are uses
of a control. -/
inductive Operation where
  | use (c : Control)
  | showCode
  | refreshCode
  | beginCode
  | beginRefresh

namespace Operation

/-- The control that an operation uses. -/
def control : Operation → Control
  | .use c => c
  | _ => .code

/-- An operation at once: the ticket it hands out, if any, the display and the service. -/
def attempt (s : Service σ) (id : String) (d : Display) (w : σ) :
    Operation → Except ControlError (Option Ticket × Display × σ)
  | .use c => (d.use s id c w).map (none, ·)
  | .showCode => (d.showCode s id w).map (none, ·)
  | .refreshCode => (d.refreshCode s id w).map (none, ·)
  | .beginCode => (d.beginCode id).map fun (t, e) => (t, e, w)
  | .beginRefresh => (d.beginRefresh id).map fun (t, e) => (some t, e, w)

/-- An operation in place. -/
def perform (s : Service σ) (id : String) : Operation → InPlace σ (Option Ticket)
  | .use c => do
    InPlace.use s id c
    return none
  | .showCode => do
    InPlace.showCode s id
    return none
  | .refreshCode => do
    InPlace.refreshCode s id
    return none
  | .beginCode => InPlace.beginCode id
  | .beginRefresh => some <$> InPlace.beginRefresh id

end Operation

/-! ## The search decides -/

variable (s : Service σ) {x : Scene σ} {id : String} {e : ControlError} {m : Model}
  {schema : String}

/-- What is taken down does not show on a ticket. -/
@[simp] theorem Gallery.ticket_remove (g : Gallery) (id : String) (m : Model) (schema : String) :
    (g.remove id).ticket m schema = g.ticket m schema := rfl

namespace InPlace

theorem run_find_error (h : x.display.find id = .error e) : (find id).run x = .error e x := by
  simp only [find, EStateM.run_bind, EStateM.run_get, h]
  rfl

theorem run_find_ok (h : x.display.find id = .ok (m, schema)) :
    (find id).run x = .ok (m, schema) x := by
  simp [find, h]

@[simp] theorem run_map {α β : Type} (f : α → β) (p : InPlace σ α) (x : Scene σ) :
    (f <$> p).run x =
      match p.run x with
      | .ok a y => .ok (f a) y
      | .error e y => .error e y := by
  change EStateM.map f p x = _
  rw [EStateM.map, EStateM.run]
  cases p x <;> rfl

@[simp] theorem run_press (x : Scene σ) (id : String) (c : Control) :
    (press id c).run x = .ok () { x with display := x.display.press id c } := rfl

@[simp] theorem run_takeDown (x : Scene σ) (id : String) :
    (takeDown id).run x =
      .ok () { x with display.gallery := x.display.gallery.remove id } := rfl

@[simp] theorem run_send (x : Scene σ) (t : Ticket) :
    (send s t).run x = .ok () ⟨(Display.run s t x.display x.service).1,
      (Display.run s t x.display x.service).2, x.sent ++ [t.request]⟩ := rfl

end InPlace

namespace Operation

/-- Every operation fails as the search for the model does. -/
theorem attempt_error (h : x.display.find id = .error e) (o : Operation) :
    o.attempt s id x.display x.service = .error e := by
  cases o with
  | use c => cases c <;> simp [attempt, Display.use, Display.showCode, Display.beginCode,
      Display.move, h, Except.map]
  | showCode => simp [attempt, Display.showCode, Display.beginCode, h, Except.map]
  | refreshCode => simp [attempt, Display.refreshCode, Display.beginRefresh, h, Except.map]
  | beginCode => simp [attempt, Display.beginCode, h, Except.map]
  | beginRefresh => simp [attempt, Display.beginRefresh, h, Except.map]

/-- Nothing has been changed when the search fails. -/
theorem run_error (h : x.display.find id = .error e) (o : Operation) :
    (o.perform s id).run x = .error e x := by
  have found := InPlace.run_find_error h
  cases o with
  | use c => cases c <;> simp [perform, InPlace.use, InPlace.showCode, InPlace.beginCode, found]
  | showCode => simp [perform, InPlace.showCode, InPlace.beginCode, found]
  | refreshCode => simp [perform, InPlace.refreshCode, InPlace.beginRefresh, found]
  | beginCode => simp [perform, InPlace.beginCode, found]
  | beginRefresh => simp [perform, InPlace.beginRefresh, found]

/-- An operation comes to the same at once and in place, and its control has been used. -/
def Succeeds (o : Operation) (id : String) (x : Scene σ) : Prop :=
  ∃ t d w more, o.attempt s id x.display x.service = .ok (t, d, w) ∧
    (o.perform s id).run x = .ok t ⟨d, w, x.sent ++ more⟩ ∧
    d.focus = SchemaBoard.press x.display.focus id o.control

theorem succeeds_use (h : x.display.find id = .ok (m, schema)) {c : Control} (hc : c ≠ .code) :
    Succeeds s (.use c) id x := by
  have found := InPlace.run_find_ok h
  refine ⟨none, x.display.press id c, x.service, [], ?_, ?_, rfl⟩
  · cases c with
    | code => exact absurd rfl hc
    | collapse => simp [attempt, Display.use, Display.move, h, Except.map]
    | table => simp [attempt, Display.use, Display.move, h, Except.map]
  · cases c with
    | code => exact absurd rfl hc
    | collapse => simp [perform, InPlace.use, found]
    | table => simp [perform, InPlace.use, found]

theorem succeeds_beginCode (h : x.display.find id = .ok (m, schema)) :
    Succeeds s .beginCode id x := by
  have found := InPlace.run_find_ok h
  let t := if x.display.gallery.contains id then none else some (x.display.gallery.ticket m schema)
  refine ⟨t, x.display.press id .code, x.service, [], ?_, ?_, rfl⟩
  · simp [attempt, Display.beginCode, h, Except.map, t]
  · by_cases hung : x.display.gallery.contains id = true
    · simp [perform, InPlace.beginCode, found, hung, Display.press, t]
    · simp [perform, InPlace.beginCode, found, hung, Display.press, t]

theorem succeeds_beginRefresh (h : x.display.find id = .ok (m, schema)) :
    Succeeds s .beginRefresh id x := by
  have found := InPlace.run_find_ok h
  let bare := { x.display.press id .code with gallery := x.display.gallery.remove id }
  refine ⟨some (x.display.gallery.ticket m schema), bare, x.service, [], ?_, ?_, rfl⟩
  · simp [attempt, Display.beginRefresh, h, Except.map, bare]
  · simp [perform, InPlace.beginRefresh, found, Display.press, bare]

/-- Code is shown as it is asked for; if nothing hangs, the request is sent. -/
theorem succeeds_showCode (h : x.display.find id = .ok (m, schema)) :
    Succeeds s .showCode id x := by
  have found := InPlace.run_find_ok h
  by_cases hung : x.display.gallery.contains id = true
  · refine ⟨none, x.display.press id .code, x.service, [], ?_, ?_, rfl⟩
    · simp [attempt, Display.showCode, Display.beginCode, h, hung, Except.map]
    · simp [perform, InPlace.showCode, InPlace.beginCode, found, hung, Display.press]
  · let t := x.display.gallery.ticket m schema
    let result := Display.run s t (x.display.press id .code) x.service
    refine ⟨none, result.1, result.2, [t.request], ?_, ?_, rfl⟩
    · simp [attempt, Display.showCode, Display.beginCode, h, hung, Except.map, result, t]
    · simp [perform, InPlace.showCode, InPlace.beginCode, found, hung, Display.press, result, t]

theorem succeeds_refreshCode (h : x.display.find id = .ok (m, schema)) :
    Succeeds s .refreshCode id x := by
  have found := InPlace.run_find_ok h
  let t := x.display.gallery.ticket m schema
  let bare := { x.display.press id .code with gallery := x.display.gallery.remove id }
  let result := Display.run s t bare x.service
  refine ⟨none, result.1, result.2, [t.request], ?_, ?_, rfl⟩
  · simp [attempt, Display.refreshCode, Display.beginRefresh, h, Except.map, result, t, bare]
  · simp [perform, InPlace.refreshCode, InPlace.beginRefresh, found, Display.press, result, t, bare]

theorem succeeds (h : x.display.find id = .ok (m, schema)) (o : Operation) :
    Succeeds s o id x := by
  cases o with
  | use c =>
    cases c with
    | code => exact succeeds_showCode s h
    | collapse => exact succeeds_use s h (by decide)
    | table => exact succeeds_use s h (by decide)
  | showCode => exact succeeds_showCode s h
  | refreshCode => exact succeeds_refreshCode s h
  | beginCode => exact succeeds_beginCode s h
  | beginRefresh => exact succeeds_beginRefresh s h

theorem attempt_error_iff (o : Operation) :
    o.attempt s id x.display x.service = .error e ↔ x.display.find id = .error e := by
  cases h : x.display.find id with
  | error f => rw [attempt_error s h]; simp
  | ok found =>
    obtain ⟨t, d, w, more, result, -⟩ := succeeds s h o
    simp [result]

theorem run_error_iff (o : Operation) :
    (o.perform s id).run x = .error e x ↔ x.display.find id = .error e := by
  cases h : x.display.find id with
  | error f => rw [run_error s h]; simp
  | ok found =>
    obtain ⟨t, d, w, more, -, result, -⟩ := succeeds s h o
    simp [result]

end Operation

/-! ## When the search fails -/

theorem Analysis.model?_eq_none_iff (a : Analysis) (id : String) :
    a.model? id = none ↔ ∀ m ∈ a.models, m.id ≠ id := by
  simp [Analysis.model?]

theorem Display.find_noSchema_iff (d : Display) (id : String) :
    d.find id = .error .noSchema ↔ d.analysis = none := by
  unfold Display.find
  cases d.analysis with
  | none => simp
  | some a => cases h : a.model? id <;> simp [h]

theorem Display.find_unknownModel_iff (d : Display) (id k : String) :
    d.find id = .error (.unknownModel k) ↔
      k = id ∧ ∃ a, d.analysis = some a ∧ ∀ m ∈ a.models, m.id ≠ id := by
  unfold Display.find
  cases d.analysis with
  | none => simp
  | some a =>
    simp only [Option.some.injEq, exists_eq_left', ← Analysis.model?_eq_none_iff]
    cases a.model? id with
    | none => simp [eq_comm]
    | some m => simp

theorem Display.exists_find_ok {d : Display} {a : Analysis} {id : String} (ha : d.analysis = some a)
    (known : ∃ m ∈ a.models, m.id = id) : ∃ m, d.find id = .ok (m, a.schema) := by
  obtain ⟨m, mem, same⟩ := known
  have found : a.model? id ≠ none := fun absent => (a.model?_eq_none_iff id).1 absent m mem same
  obtain ⟨n, hn⟩ := Option.ne_none_iff_exists'.1 found
  exact ⟨n, by simp [Display.find, ha, hn]⟩

theorem modeOf_press (focus : Option Focus) (id : String) (c : Control) :
    modeOf (press focus id c) id = c.target := by
  cases c with
  | collapse => simp [modeOf_press_collapse, Control.target]
  | table => exact modeOf_self id .table
  | code => exact modeOf_self id .code

/-- Whatever is asked of a display about a model, it is refused exactly if no schema is on show, or
one without a model of this id; carried out in place it then leaves everything as it is, and nothing
is sent. Otherwise it succeeds, whatever the service replies, and the card has the mode of the
control. -/
theorem refused_unchanged (s : Service σ) (o : Operation) (id : String) (x : Scene σ) :
    (o.attempt s id x.display x.service = .error .noSchema ↔ x.display.analysis = none) ∧
    (∀ k, o.attempt s id x.display x.service = .error (.unknownModel k) ↔
      k = id ∧ ∃ a, x.display.analysis = some a ∧ ∀ m ∈ a.models, m.id ≠ id) ∧
    (∀ e, o.attempt s id x.display x.service = .error e ↔ (o.perform s id).run x = .error e x) ∧
    ((∃ a, x.display.analysis = some a ∧ ∃ m ∈ a.models, m.id = id) →
      ∃ t d w more, o.attempt s id x.display x.service = .ok (t, d, w) ∧
        (o.perform s id).run x = .ok t ⟨d, w, x.sent ++ more⟩ ∧
        d.modeOf id = o.control.target) := by
  refine ⟨?_, fun k => ?_, fun e => ?_, ?_⟩
  · rw [Operation.attempt_error_iff, Display.find_noSchema_iff]
  · rw [Operation.attempt_error_iff, Display.find_unknownModel_iff]
  · rw [Operation.attempt_error_iff, Operation.run_error_iff]
  · rintro ⟨a, ha, known⟩
    obtain ⟨m, found⟩ := Display.exists_find_ok ha known
    obtain ⟨t, d, w, more, result, inPlace, focus⟩ := Operation.succeeds s found o
    refine ⟨t, d, w, more, result, inPlace, ?_⟩
    rw [Display.modeOf, focus, modeOf_press]

/-! ## A service that never answers -/

def silent : Service Nat where
  analyse n _ := (.error (.status "" 503), n + 1)
  highlight n _ := (.error (.status "" 503), n + 1)

/-- The code of the only model is on show. -/
def single : Scene Nat where
  display := {
    analysis := some ⟨"s", [⟨"a", "A", {}, [], ""⟩]⟩
    focus := some ⟨"a", .table⟩
    gallery := ⟨[("a", "<pre></pre>")], 1⟩ }
  service := 0
  sent := []

/-- To ask afresh for the code of an unknown model is refused; for the one on show it succeeds,
though no answer comes. -/
theorem refresh_refused_or_unanswered :
    (Operation.refreshCode.perform silent "b").run single = .error (.unknownModel "b") single ∧
    ∃ t d w more, (Operation.refreshCode.perform silent "a").run single = .ok t ⟨d, w, more⟩ ∧
      d.modeOf "a" = .code := by
  obtain ⟨-, unknown, unchanged, -⟩ := refused_unchanged silent .refreshCode "b" single
  obtain ⟨-, -, -, known⟩ := refused_unchanged silent .refreshCode "a" single
  refine ⟨?_, ?_⟩
  · exact (unchanged _).1 ((unknown "b").2 ⟨rfl, _, rfl, by decide⟩)
  · obtain ⟨t, d, w, more, -, inPlace, mode⟩ := known ⟨_, rfl, by decide⟩
    exact ⟨t, d, w, more, inPlace, mode⟩

end SchemaBoard
