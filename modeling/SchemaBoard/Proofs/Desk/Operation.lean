import SchemaBoard.Proofs.Desk.Invariant

/-!
# What is done with a desk

The owner of a desk does one thing after another with it, and each comes to its end, all notices
included, before the next. The log keeps what listeners asked meanwhile and who failed. Main
statements: every operation is a course (`course_carry`), and so is a run of them, on which the log
tells all that its owner did not do (`course_run`).
-/
namespace SchemaBoard

open Remote (Service)

variable {L V σ X : Type}

/-! ## Noise -/

/-- The beat that an event is left by, if that was a request or a failure. -/
def Event.noise? : Event L V → Option (Beat L V)
  | .asked asker r _ => some (.asked asker r)
  | .failed i _ => some (.failed i)
  | _ => none

/-- A beat, if the log keeps it as a request or a failure. -/
def Beat.noise? : Beat L V → Option (Beat L V)
  | .asked asker r => some (.asked asker r)
  | .failed i => some (.failed i)
  | _ => none

namespace Hub

/-- The requests and failures that there were, the earliest first. -/
def noise (h : Hub L V) : List (Beat L V) := (h.log.filterMap Event.noise?).reverse

theorem noise_land (h : Hub L V) (n : Notice V) : (h.land n).noise = h.noise := rfl

theorem noise_note (h : Hub L V) (e : Event L V) :
    (h.note e).noise = h.noise ++ e.noise?.toList := by
  cases he : e.noise? <;> simp [noise, note, he]

theorem noise_detach (h : Hub L V) (i : Nat) : (h.detach i).noise = h.noise := by
  unfold detach
  split <;> rfl

theorem noise_vacate (h : Hub L V) (slot : String) : (h.vacate slot).1.noise = h.noise := by
  unfold vacate
  split
  · exact noise_detach h _
  · rfl

/-- To serve a request makes no noise of its own. -/
theorem noise_serve (h : Hub L V) (r : Request L V) : (h.serve r).1.noise = h.noise := by
  cases r with
  | subscribe slot l => exact noise_vacate (h.subscribe slot l) slot
  | unsubscribe slot => exact noise_vacate h slot
  | discard slot => exact noise_vacate h slot
  | writeAt tag n o =>
    cases hg : h.writeAt? tag n o with
    | none => simp only [serve, hg]
    | some g =>
      simp only [serve, hg]
      rw [(eq_land_of_writeAt? hg).2, noise_land]
  | _ => rfl

theorem noise_perform (h : Hub L V) (asker : Option Nat) (r : Request L V) :
    (h.perform asker r).1.noise = h.noise ++ [.asked asker r] := by
  simp only [perform]
  split
  · exact noise_note h _
  · rw [← noise_serve h r]
    exact noise_note _ _

theorem noise_step [Listener L V] {h g : Hub L V} {b : Beat L V} (s : Step h b g) :
    g.noise = h.noise ++ b.noise?.toList := by
  cases s with
  | call hr => exact noise_note _ _
  | fail message hr => simp [noise, abandon, Event.noise?, Beat.noise?]
  | _ => simp [noise, start, setRound, Beat.noise?]

end Hub

namespace Desk

/-- The request or failure that an act is. -/
def Act.noise? : Act X → Option (Beat (Watcher X) Analysis)
  | .beat b => b.noise?
  | _ => none

theorem Act.eq_beat_of_noise? {a : Act X} {b : Beat (Watcher X) Analysis}
    (h : a.noise? = some b) : a = .beat b := by
  cases a with
  | beat c => cases c <;> first | (cases h; done) | (obtain rfl := Option.some.inj h; rfl)
  | _ => cases h

/-- An act that issues a number is no beat, or it is among the noise. -/
theorem forall_issued_iff (own : List (Act X)) (bs : List (Beat (Watcher X) Analysis))
    (t : String) :
    (∀ a ∈ own ++ bs.map Act.beat, a.issued? ≠ some t) ↔
      (∀ a ∈ own, a.issued? ≠ some t) ∧
        ∀ b ∈ (own ++ bs.map Act.beat).filterMap Act.noise?,
          (Act.beat b : Act X).issued? ≠ some t := by
  constructor
  · intro none
    refine ⟨fun a ha => none a (List.mem_append_left _ ha), fun b hb => ?_⟩
    obtain ⟨a, ha, hab⟩ := List.mem_filterMap.1 hb
    obtain rfl := Act.eq_beat_of_noise? hab
    exact none _ ha
  · rintro ⟨owned, loud⟩ a ha
    rcases List.mem_append.1 ha with ho | hb
    · exact owned a ho
    · obtain ⟨b, -, rfl⟩ := List.mem_map.1 hb
      cases b with
      | asked asker r => exact loud _ (List.mem_filterMap.2 ⟨_, ha, rfl⟩)
      | _ => exact nofun

/-- The requests and failures on the way from one state of a desk to a later one. -/
def noiseSince (d e : Desk σ X) : List (Beat (Watcher X) Analysis) :=
  e.hub.noise.drop d.hub.noise.length

theorem noise_unmount (d : Desk σ X) (name : String) :
    (d.unmount name).2.hub.noise = d.hub.noise := by
  unfold unmount
  split
  · exact Hub.noise_detach d.hub _
  · rfl

variable [Listener X Analysis]

theorem Move.noise {d e : Desk σ X} {a : Act X} (s : Move d a e) :
    e.hub.noise = d.hub.noise ++ a.noise?.toList := by
  cases s with
  | begin => exact (List.append_nil _).symm
  | finish k reply =>
    rcases d.finished_cases k reply with ⟨-, h⟩ | ⟨-, h⟩ <;>
      rw [h] <;> exact (List.append_nil _).symm
  | write tag o => exact (List.append_nil _).symm
  | control c hx =>
    obtain ⟨i, hi, -⟩ := display?_eq_some hx
    rw [setDisplay_of_place hi]
    exact (List.append_nil _).symm
  | mount name => exact (noise_unmount (d.welcome name) name).trans (List.append_nil _).symm
  | unmount name => exact (noise_unmount d name).trans (List.append_nil _).symm
  | serve w => exact (List.append_nil _).symm
  | ask asker r => exact Hub.noise_perform { d.hub with fault := none } asker (r.map .other)
  | step he =>
    rcases Hub.step?_cases he with s | ⟨i, l, r, -, hb, rfl⟩
    · exact Hub.noise_step s
    · rw [hb]
      exact Hub.noise_perform d.hub (some i) r

theorem noise_course {d e : Desk σ X} {as : List (Act X)} (c : Course d as e) :
    e.hub.noise = d.hub.noise ++ as.filterMap Act.noise? := by
  induction c with
  | rest => simp
  | @move m e as a c s ih =>
    rw [s.noise, ih, List.append_assoc, List.filterMap_append]
    cases h : a.noise? <;> simp [h]

theorem noiseSince_eq {d e : Desk σ X} {as : List (Act X)} (c : Course d as e) :
    noiseSince d e = as.filterMap Act.noise? := by
  rw [noiseSince, noise_course c, List.drop_left]

/-! ## Operations -/

/-- What its owner does with a desk. Displays are named, and a control that fails, or whose display
is not there, does nothing. -/
inductive Op (X : Type) where
  | begin
  | finish (sequence : Nat) (reply : Except Reply.Failure Analysis)
  | upload (f : Intake.File)
  | write (tag : String) (o : Outcome Analysis)
  | use (name id : String) (c : Control)
  | refreshCode (name id : String)
  | beginCode (name id : String)
  | beginRefresh (name id : String)
  | finishCode (name : String) (t : Ticket) (reply : Except Reply.Failure String)
  | mount (name : String)
  | unmount (name : String)
  | ask (o : Order X Analysis)

/-- The desk after something was done with a display. -/
def control {α : Type} (d : Desk σ X) (name : String)
    (f : Display → σ → Except ControlError (α × Display × σ)) : Desk σ X :=
  (d.operate name f).elim d Prod.snd

/-- Whether an operation issues a number for analyses, so that what was begun before comes too late.
-/
def Op.supersedes : Op X → Bool
  | .begin => true
  | .upload f => f.isAccepted
  | .write tag _ => tag = analysisTag
  | _ => false

theorem course_control {α : Type} (d : Desk σ X) (name : String)
    {f : Display → σ → Except ControlError (α × Display × σ)} (hf : Display.IsActs f) :
    ∃ as, Course d as (d.control name f) ∧ ∀ a ∈ as, a = .serve ∨ ∃ c, a = .control name c := by
  cases hx : d.display? name with
  | none => exact ⟨[], by simpa [control, operate, hx] using Course.rest d, by simp⟩
  | some x =>
    obtain ⟨p, hp⟩ : ∃ p, d.operate name f = some p := by simp [operate, hx]
    rw [control, hp]
    exact course_operate d hx hf hp

/-- A course that an operation may take: what its owner does, and the beats behind it. The former
issues a number for analyses exactly if the operation supersedes. -/
def Op.Leads (op : Op X) (d e : Desk σ X) : Prop :=
  ∃ (own : List (Act X)) (bs : List (Beat (Watcher X) Analysis)),
    Course d (own ++ bs.map .beat) e ∧
      ((∀ a ∈ own, a.issued? ≠ some analysisTag) ↔ op.supersedes = false)

theorem Op.leads_of_move {op : Op X} {d e : Desk σ X} {a : Act X} (m : Move d a e)
    (hi : a.issued? ≠ some analysisTag ↔ op.supersedes = false) : op.Leads d e :=
  ⟨[a], [], .of_move m, by simpa using hi⟩

theorem Op.leads_control {op : Op X} (ho : op.supersedes = false) {α : Type} (d : Desk σ X)
    (name : String) {f : Display → σ → Except ControlError (α × Display × σ)}
    (hf : Display.IsActs f) : op.Leads d (d.control name f) := by
  obtain ⟨as, c, only⟩ := course_control d name hf
  refine ⟨as, [], by simpa using c, iff_of_true (fun a ha => ?_) ho⟩
  rcases only a ha with rfl | ⟨k, rfl⟩ <;> exact nofun

variable [Bounded X Analysis]

def Op.carry (s : Service σ) (d : Desk σ X) : Op X → Desk σ X
  | .begin => d.begin.2
  | .finish k reply => (d.finish k reply).2
  | .upload f => d.upload s f
  | .write tag o => d.write tag o
  | .use name id c => d.control name fun x w => (x.use s id c w).map fun p => ((), p)
  | .refreshCode name id => d.control name fun x w => (x.refreshCode s id w).map fun p => ((), p)
  | .beginCode name id => d.control name fun x w => (x.beginCode id).map fun (t, x) => (t, x, w)
  | .beginRefresh name id =>
    d.control name fun x w => (x.beginRefresh id).map fun (t, x) => (t, x, w)
  | .finishCode name t reply =>
    d.control name fun x w => .ok ((x.finishCode t reply).1, (x.finishCode t reply).2, w)
  | .mount name => d.mount name
  | .unmount name => (d.unmount name).2
  | .ask o => (d.ask o).2

/-- The desk after one operation after another. -/
def run (s : Service σ) (d : Desk σ X) (ops : List (Op X)) : Desk σ X := ops.foldl (Op.carry s) d

theorem course_carry (s : Service σ) (d : Desk σ X) (op : Op X) : op.Leads d (op.carry s d) := by
  cases op with
  | begin => exact Op.leads_of_move (.begin d) (by simp [Act.issued?, Op.supersedes])
  | finish k reply =>
    obtain ⟨bs, c⟩ := course_finish d k reply
    exact ⟨[_], bs, c, by simp [Act.issued?, Op.supersedes]⟩
  | upload f =>
    by_cases hf : f.isAccepted = true
    · obtain ⟨reply, bs, c⟩ := course_upload s d f hf
      exact ⟨_, bs, c, by simp [Act.issued?, Op.supersedes, hf]⟩
    · have refused : d.upload s f = d := if_neg hf
      exact ⟨[], [], by simpa [Op.carry, refused] using Course.rest d,
        by simpa [Op.supersedes] using hf⟩
  | write tag o =>
    obtain ⟨bs, c⟩ := course_write d tag o
    exact ⟨[_], bs, c, by simp [Act.issued?, Op.supersedes]⟩
  | use name id k => exact Op.leads_control rfl d name (Display.isActs_use s id k)
  | refreshCode name id => exact Op.leads_control rfl d name (Display.isActs_refreshCode s id)
  | beginCode name id => exact Op.leads_control rfl d name (Display.isActs_beginCode id)
  | beginRefresh name id => exact Op.leads_control rfl d name (Display.isActs_beginRefresh id)
  | finishCode name t reply => exact Op.leads_control rfl d name (Display.isActs_finishCode t reply)
  | mount name => exact Op.leads_of_move (.mount d name) (by simp [Act.issued?, Op.supersedes])
  | unmount name => exact Op.leads_of_move (.unmount d name) (by simp [Act.issued?, Op.supersedes])
  | ask o =>
    obtain ⟨bs, c⟩ := course_ask d o
    exact ⟨[], bs, c, by simp [Op.supersedes]⟩

/-- Nothing issues a number for analyses in a run but the operations that do, and what is asked
meanwhile. -/
theorem course_run (s : Service σ) (d : Desk σ X) (ops : List (Op X)) :
    ∃ as, Course d as (run s d ops) ∧
      ((∀ a ∈ as, a.issued? ≠ some analysisTag) ↔
        (∀ op ∈ ops, op.supersedes = false) ∧
          ∀ b ∈ noiseSince d (run s d ops), (Act.beat b : Act X).issued? ≠ some analysisTag) := by
  induction ops generalizing d with
  | nil => exact ⟨[], .rest d, by simp [noiseSince, run]⟩
  | cons op ops ih =>
    obtain ⟨own, bs, c, first⟩ := course_carry s d op
    obtain ⟨as, k, later⟩ := ih (op.carry s d)
    have whole : Course d ((own ++ bs.map .beat) ++ as) (run s d (op :: ops)) := c.trans k
    refine ⟨_, whole, ?_⟩
    rw [noiseSince_eq k] at later
    rw [noiseSince_eq whole, List.filterMap_append, List.forall_mem_append,
      forall_issued_iff, first, later, List.forall_mem_append, List.forall_mem_cons]
    exact and_and_and_comm

end Desk
end SchemaBoard
