import SchemaBoard.Desk.Basic
import SchemaBoard.Proofs.Board.Act
import SchemaBoard.Proofs.Store.Course

/-!
# Courses of a desk

A desk takes its course by acts of its owner, by requests of others, and by the steps of the
notices. Each may come at any moment, also while listeners are being told. Main statements: whatever
the operations of a desk do is a course.
-/
namespace SchemaBoard

open Remote (Service)

variable {L V : Type}

namespace Desk

variable {σ X : Type}

/-- What is done with a desk, or happens to it. -/
inductive Act (X : Type) where
  | begin
  | finish (sequence : Nat) (reply : Except Reply.Failure Analysis)
  | write (tag : String) (o : Outcome Analysis)
  | control (name : String) (a : Display.Act)
  | mount (name : String)
  | unmount (name : String)
  /-- The service is used, which may change it in any way. -/
  | serve
  | beat (b : Beat (Watcher X) Analysis)

namespace Act

/-- The tag under which an act issues a number. -/
def issued? : Act X → Option String
  | .begin => some analysisTag
  | .write tag _ => some tag
  | .beat (.asked _ r) => r.issued?
  | _ => none

/-- The tag under which an act lets an entry land, unless it is refused. -/
def landing? : Act X → Option String
  | .finish _ _ => some analysisTag
  | .write tag _ => some tag
  | .beat (.asked _ r) => r.landing?
  | _ => none

def isFailed : Act X → Bool
  | .beat b => b.isFailed
  | _ => false

/-- Whether an act controls the display of a name. -/
def controls (name : String) : Act X → Bool
  | .control n _ => n = name
  | _ => false

end Act

/-! What a write, a finish and a request do before the notices go their way. -/

def wrote (d : Desk σ X) (tag : String) (o : Outcome Analysis) : Desk σ X :=
  { d with hub := Hub.write { d.hub with fault := none } tag o }

def finished (d : Desk σ X) (sequence : Nat) (reply : Except Reply.Failure Analysis) : Desk σ X :=
  (d.land? sequence reply).getD d

def asked (d : Desk σ X) (asker : Option Nat) (r : Request X Analysis) : Desk σ X :=
  { d with hub := (Hub.perform { d.hub with fault := none } asker (r.map .other)).1 }

/-! ## Displays that are set -/

theorem setDisplay_of_place {d : Desk σ X} {name : String} {i : Nat} (h : d.place? name = some i)
    (x : Display) :
    d.setDisplay name x = { d with hub := d.hub.alter i (Watcher.mapDisplay fun _ => x) } := by
  simp [setDisplay, h, Hub.alter]

theorem place?_setDisplay {d : Desk σ X} {name : String} {i : Nat} (h : d.place? name = some i)
    (x : Display) : (d.setDisplay name x).place? name = some i := by
  rw [setDisplay_of_place h]
  exact h

/-- The place of a display, and its state there. -/
theorem display?_eq_some {d : Desk σ X} {name : String} {x : Display}
    (h : d.display? name = some x) :
    ∃ i, d.place? name = some i ∧ d.hub.store.state? i = some (.display x) := by
  obtain ⟨i, hi, h⟩ := Option.bind_eq_some_iff.1 h
  obtain ⟨l, hl, h⟩ := Option.bind_eq_some_iff.1 h
  refine ⟨i, hi, ?_⟩
  cases l with
  | display y =>
    cases h
    exact hl
  | other y => cases h

theorem display?_setDisplay {d : Desk σ X} {name : String} {x : Display} (y : Display)
    (h : d.display? name = some x) : (d.setDisplay name y).display? name = some y := by
  obtain ⟨i, hi, hx⟩ := display?_eq_some h
  obtain ⟨s, hs, hx⟩ := Option.map_eq_some_iff.1 hx
  rw [display?, place?_setDisplay hi, setDisplay_of_place hi]
  simp [Store.state?, Hub.alter, Store.alter, hs, hx, Watcher.mapDisplay, Watcher.display?]

theorem setDisplay_setDisplay {d : Desk σ X} {name : String} {z : Display}
    (h : d.display? name = some z) (x y : Display) :
    (d.setDisplay name x).setDisplay name y = d.setDisplay name y := by
  obtain ⟨i, hi, -⟩ := display?_eq_some h
  have ht : (fun s : Subscriber (Watcher X) => { s with state := s.state.mapDisplay fun _ => y }) ∘
      (fun s : Subscriber (Watcher X) => { s with state := s.state.mapDisplay fun _ => x })
      = fun s : Subscriber (Watcher X) => { s with state := s.state.mapDisplay fun _ => y } := by
    funext ⟨n, l⟩
    cases l <;> rfl
  rw [setDisplay_of_place (place?_setDisplay hi x), setDisplay_of_place hi, setDisplay_of_place hi]
  simp only [Hub.alter, Store.alter, List.modify_modify_eq, ht]

theorem setDisplay_self {d : Desk σ X} {name : String} {x : Display}
    (h : d.display? name = some x) : d.setDisplay name x = d := by
  obtain ⟨i, hi, hx⟩ := display?_eq_some h
  obtain ⟨⟨n, l⟩, hs, rfl⟩ := Option.map_eq_some_iff.1 hx
  have hm : d.hub.store.subscribers.modify i
      (fun y => { y with state := Watcher.mapDisplay (fun _ => x) y.state })
      = d.hub.store.subscribers := by
    apply List.ext_getElem?
    intro j
    rw [List.getElem?_modify]
    by_cases hj : i = j
    · subst hj
      rw [hs]
      simp [Watcher.mapDisplay]
    · simp [hj]
  rw [setDisplay_of_place hi, Hub.alter, Store.alter, hm]

/-! ## Moves -/

variable [Listener X Analysis]

/-- One act, and where it leads. -/
inductive Move : Desk σ X → Act X → Desk σ X → Prop where
  | begin (d : Desk σ X) : Move d .begin d.begin.2
  | finish (d : Desk σ X) (sequence : Nat) (reply : Except Reply.Failure Analysis) :
      Move d (.finish sequence reply) (d.finished sequence reply)
  | write (d : Desk σ X) (tag : String) (o : Outcome Analysis) :
      Move d (.write tag o) (d.wrote tag o)
  | control (d : Desk σ X) {name : String} {x : Display} (a : Display.Act)
      (hx : d.display? name = some x) : Move d (.control name a) (d.setDisplay name (x.act a))
  | mount (d : Desk σ X) (name : String) : Move d (.mount name) (d.mount name)
  | unmount (d : Desk σ X) (name : String) : Move d (.unmount name) (d.unmount name).2
  | serve (d : Desk σ X) (w : σ) : Move d .serve { d with service := w }
  | ask (d : Desk σ X) (asker : Option Nat) (r : Request X Analysis) :
      Move d (.beat (.asked asker (r.map .other))) (d.asked asker r)
  | step (d : Desk σ X) {g : Hub (Watcher X) Analysis} (e : d.hub.step? = some g) :
      Move d (.beat d.hub.beat) { d with hub := g }

/-- The courses of a desk: the acts that lead from one state to another. -/
inductive Course : Desk σ X → List (Act X) → Desk σ X → Prop where
  | rest (d : Desk σ X) : Course d [] d
  | move {d m e : Desk σ X} {as : List (Act X)} {a : Act X} (c : Course d as m) (s : Move m a e) :
      Course d (as ++ [a]) e

theorem Course.trans {d m e : Desk σ X} {as bs : List (Act X)} (c : Course d as m)
    (k : Course m bs e) : Course d (as ++ bs) e := by
  induction k with
  | rest => simpa using c
  | move _ s ih => simpa [List.append_assoc] using ih.move s

theorem Course.of_move {d e : Desk σ X} {a : Act X} (s : Move d a e) : Course d [a] e :=
  (Course.rest d).move s

/-- What every move keeps holds at the end of a course. -/
theorem Course.keep {P : Desk σ X → Prop} {d e : Desk σ X} {as : List (Act X)}
    (c : Course d as e) (hP : ∀ m n, ∀ a ∈ as, Move m a n → P m → P n) (hd : P d) : P e := by
  induction c with
  | rest => exact hd
  | move c s ih =>
    have hm := ih fun m n a ha => hP m n a (List.mem_append_left _ ha)
    exact hP _ _ _ (by simp) s hm

/-! ## The operations are courses -/

theorem course_advance (d : Desk σ X) (k : Nat) :
    Course d ((Hub.beats k d.hub).map .beat) { d with hub := Hub.advance k d.hub } := by
  induction k generalizing d with
  | zero => exact .rest d
  | succ k ih =>
    cases e : d.hub.step? with
    | none => simpa [Hub.beats, Hub.advance, e] using Course.rest d
    | some g =>
      have c := (Course.of_move (.step d e)).trans (ih { d with hub := g })
      simpa [Hub.beats, Hub.advance, e] using c

theorem course_controls (d : Desk σ X) {name : String} {x : Display}
    (hx : d.display? name = some x) (as : List Display.Act) :
    Course d (as.map (.control name)) (d.setDisplay name (x.acts as)) := by
  induction as using List.reverseRecOn with
  | nil =>
    have hd : d.setDisplay name (x.acts []) = d := setDisplay_self hx
    rw [hd]
    exact .rest d
  | append_singleton as a ih =>
    have c := ih.move (.control _ a (display?_setDisplay _ hx))
    rw [setDisplay_setDisplay hx] at c
    simpa [Display.acts_append] using c

/-- A control of a card is a course of acts on its display, whatever the service does meanwhile. -/
theorem course_operate {α : Type} (d : Desk σ X) {name : String} {x : Display}
    (hx : d.display? name = some x) {f : Display → σ → Except ControlError (α × Display × σ)}
    (hf : Display.IsActs f) {r : Except ControlError α} {e : Desk σ X}
    (he : d.operate name f = some (r, e)) :
    ∃ as, Course d as e ∧ ∀ a ∈ as, a = .serve ∨ ∃ c, a = .control name c := by
  simp only [operate, hx, Option.map_some, Option.some.injEq] at he
  cases h : f x d.service with
  | error m =>
    rw [h] at he
    obtain rfl : d = e := congrArg Prod.snd he
    exact ⟨[], .rest d, by simp⟩
  | ok p =>
    obtain ⟨a, y, w⟩ := p
    obtain ⟨as, rfl⟩ := hf _ _ _ _ _ h
    rw [h] at he
    obtain rfl := congrArg Prod.snd he
    refine ⟨_, (course_controls d hx as).move (.serve _ w), fun a ha => ?_⟩
    rcases List.mem_append.1 ha with ha | ha
    · obtain ⟨c, -, rfl⟩ := List.mem_map.1 ha
      exact .inr ⟨c, rfl⟩
    · exact .inl (List.mem_singleton.1 ha)

variable [Bounded X Analysis]

theorem course_settle (d : Desk σ X) :
    ∃ bs : List (Beat (Watcher X) Analysis),
      Course d (bs.map .beat) { d with hub := d.hub.settle } := by
  obtain ⟨k, hk⟩ := Hub.settle_eq_advance d.hub
  rw [hk]
  exact ⟨_, course_advance d k⟩

theorem course_write (d : Desk σ X) (tag : String) (o : Outcome Analysis) :
    ∃ bs : List (Beat (Watcher X) Analysis),
      Course d (.write tag o :: bs.map .beat) (d.write tag o) := by
  obtain ⟨bs, c⟩ := course_settle (d.wrote tag o)
  exact ⟨bs, (Course.of_move (.write d tag o)).trans c⟩

/-- What is finished lands, if it does, and then the notices go their way. -/
theorem course_finished (d : Desk σ X) (sequence : Nat)
    (reply : Except Reply.Failure Analysis) :
    ∃ bs : List (Beat (Watcher X) Analysis),
      Course (d.finished sequence reply) (bs.map .beat) (d.finish sequence reply).2 := by
  cases h : d.land? sequence reply with
  | none => simpa [finish, finished, h] using ⟨[], Course.rest d⟩
  | some e => simpa [finish, finished, h] using course_settle e

theorem course_finish (d : Desk σ X) (sequence : Nat) (reply : Except Reply.Failure Analysis) :
    ∃ bs : List (Beat (Watcher X) Analysis),
      Course d (.finish sequence reply :: bs.map .beat) (d.finish sequence reply).2 := by
  obtain ⟨bs, c⟩ := course_finished d sequence reply
  exact ⟨bs, (Course.of_move (.finish d sequence reply)).trans c⟩

theorem course_upload (s : Service σ) (d : Desk σ X) (f : Intake.File)
    (hf : f.isAccepted = true) :
    ∃ reply, ∃ bs : List (Beat (Watcher X) Analysis),
      Course d ([.begin, .serve, .finish d.begin.1 reply] ++ bs.map .beat) (d.upload s f) := by
  simp only [upload, hf, if_true]
  obtain ⟨bs, c⟩ := course_finish { d.begin.2 with service := (s.analyse d.begin.2.service f).2 }
    d.begin.1 (s.analyse d.begin.2.service f).1
  exact ⟨_, bs, ((Course.of_move (.begin d)).move (.serve _ _)).trans c⟩

theorem ask_snd (d : Desk σ X) (r : Request X Analysis) :
    (d.ask (.ask r)).2 = { d with hub := (d.asked none r).hub.settle } := by
  simp only [Desk.ask, Hub.drive, Order.map, asked]
  split <;> rfl

theorem course_ask (d : Desk σ X) (o : Order X Analysis) :
    ∃ bs : List (Beat (Watcher X) Analysis), Course d (bs.map .beat) (d.ask o).2 := by
  cases o with
  | fail m => exact ⟨[], .rest d⟩
  | ask r =>
    obtain ⟨bs, c⟩ := course_settle (d.asked none r)
    rw [ask_snd]
    exact ⟨.asked none (r.map .other) :: bs, (Course.of_move (.ask d none r)).trans c⟩

end Desk
end SchemaBoard
