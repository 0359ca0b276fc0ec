import SchemaBoard.Proofs.Board.Career
import SchemaBoard.Proofs.Board.Completion
import SchemaBoard.Remote.Canned

/-!
# Code is asked for when it is needed

A display whose owner waits for every reply before he goes on. What the service is asked is taken
down, and a diary keeps which models were asked for, what came, and when an outcome landed. What
hangs for a model is what came last for it since the last landing, if that was code: this is the
invariant, and it decides whether code is asked for again. Main statements: `asks_as_needed`,
`run_unrecorded`.
-/
namespace SchemaBoard

namespace Remote

/-- A request for highlighted code, and what came for it. -/
structure Exchange where
  request : HighlightRequest
  reply : Except Reply.Failure String

variable {σ : Type}

/-- The service, with what it is asked to highlight taken down, the latest first. -/
def Service.recorded (s : Service σ) : Service (σ × List Exchange) where
  analyse w f :=
    let (reply, v) := s.analyse w.1 f
    (reply, v, w.2)
  highlight w r :=
    let (reply, v) := s.highlight w.1 r
    (reply, v, ⟨r, reply⟩ :: w.2)

end Remote

open Remote (Canned Service Exchange)

namespace Display

variable {σ : Type} {s : Service σ} {id j : String} {c : Control} {d e : Display} {w v : σ}
  {log sent : List Exchange}

/-! ## One operation -/

theorem showCode_ok (h : d.showCode s id w = .ok (e, v)) :
    ∃ m schema, d.find id = .ok (m, schema) ∧
      ((d.gallery.get? id).isSome ∧ (e, v) = (d.press id .code, w) ∨
        d.gallery.get? id = none ∧
          (e, v) = run s (d.gallery.ticket m schema) (d.press id .code) w) := by
  obtain ⟨⟨t, d'⟩, hb, he⟩ := exists_of_map_ok h
  obtain ⟨⟨m, schema⟩, found, hb⟩ := exists_of_map_ok hb
  refine ⟨m, schema, found, ?_⟩
  obtain ⟨ticket, rfl⟩ := Prod.mk.inj hb
  by_cases hangs : d.gallery.contains id = true
  · obtain rfl : none = t := by rwa [if_pos hangs] at ticket
    exact .inl ⟨hangs, he.symm⟩
  · obtain rfl : some (d.gallery.ticket m schema) = t := by rwa [if_neg hangs] at ticket
    exact .inr ⟨by simpa [Gallery.contains] using hangs, he.symm⟩

theorem refreshCode_ok (h : d.refreshCode s id w = .ok (e, v)) :
    ∃ m schema, d.find id = .ok (m, schema) ∧
      (e, v) = run s (d.gallery.ticket m schema)
        { d.press id .code with gallery := d.gallery.remove id } w := by
  obtain ⟨⟨t, d'⟩, hb, he⟩ := exists_of_map_ok h
  obtain ⟨⟨m, schema⟩, found, hb⟩ := exists_of_map_ok hb
  obtain ⟨rfl, rfl⟩ := Prod.mk.inj hb
  exact ⟨m, schema, found, he.symm⟩

/-- The code of a model on show has been asked for, and what came is all that hangs for it. -/
structure AskedFor (d : Display) (id : String) (x : Exchange) (e : Display) : Prop where
  request : ∃ m schema, d.find id = .ok (m, schema) ∧ x.request = ⟨m.span, schema⟩
  hung : e.gallery.get? = Function.update d.gallery.get? id (x.reply.toOption.map Html.clean)

/-- A ticket that is settled at once, where nothing hangs for its model. -/
theorem askedFor_run {m : Model} {schema : String} (found : d.find id = .ok (m, schema))
    {d' : Display} (h : (e, v, sent) = run s.recorded (d.gallery.ticket m schema) d' (w, log))
    (generation : d'.gallery.generation = d.gallery.generation)
    (hung : d'.gallery.get? = Function.update d.gallery.get? id none) :
    ∃ x, sent = x :: log ∧ AskedFor d id x e := by
  obtain ⟨a, -, hm, -⟩ := find_ok found
  obtain rfl : m.id = id := Analysis.model?_id hm
  let q : Completion := ⟨d.gallery.ticket m schema, (s.highlight w ⟨m.span, schema⟩).1⟩
  -- nothing lands between the ticket and its reply, so the ticket is not void
  have current : q.brings? d'.gallery.generation = q.reply.toOption.map Html.clean :=
    if_pos generation.symm
  have settled : e.gallery = (d'.gallery.settle q.ticket q.reply).2 :=
    congrArg (fun p => p.1.gallery) h
  have asked : sent = ⟨⟨m.span, schema⟩, q.reply⟩ :: log := congrArg (fun p => p.2.2) h
  have emptied : d'.gallery.get? = Function.update d.gallery.get? q.id none := hung
  refine ⟨_, asked, ⟨m, schema, found, rfl⟩, ?_⟩
  rw [settled, Gallery.get?_settle, emptied, Completion.hang_update_none, current]
  rfl

/-- To show code either leaves all that hangs as it is, or asks for what does not hang. -/
theorem showCode_recorded (h : d.showCode s.recorded id (w, log) = .ok (e, v, sent)) :
    ((d.gallery.get? id).isSome ∧ sent = log ∧ e.gallery = d.gallery) ∨
      (d.gallery.get? id = none ∧ ∃ x, sent = x :: log ∧ AskedFor d id x e) := by
  obtain ⟨m, schema, found, ⟨hangs, he⟩ | ⟨empty, he⟩⟩ := showCode_ok h
  · obtain ⟨rfl, -, rfl⟩ := by simpa [Prod.ext_iff] using he
    exact .inl ⟨hangs, rfl, rfl⟩
  · have hung : Function.update d.gallery.get? id none = d.gallery.get? :=
      Function.update_eq_self_iff.2 empty.symm
    exact .inr ⟨empty, askedFor_run found he rfl hung.symm⟩

theorem refreshCode_recorded (h : d.refreshCode s.recorded id (w, log) = .ok (e, v, sent)) :
    ∃ x, sent = x :: log ∧ AskedFor d id x e := by
  obtain ⟨m, schema, found, he⟩ := refreshCode_ok h
  exact askedFor_run found he rfl (d.gallery.get?_remove id)

/-- The other controls send nothing. -/
theorem move_recorded (hc : c ≠ .code) (h : d.use s.recorded id c (w, log) = .ok (e, v, sent)) :
    sent = log ∧ e.gallery = d.gallery := by
  have moved (h : (d.move id c).map (·, w, log) = .ok (e, v, sent)) :
      sent = log ∧ e.gallery = d.gallery := by
    obtain ⟨e', he', h⟩ := exists_of_map_ok h
    obtain ⟨rfl, -, rfl⟩ := by simpa [Prod.ext_iff] using h
    exact ⟨rfl, by rw [move_ok he']; rfl⟩
  cases c with
  | code => exact absurd rfl hc
  | collapse => exact moved h
  | table => exact moved h

/-! ## Recording changes nothing -/

/-- A result without what was taken down. -/
def unrecorded (p : Display × σ × List Exchange) : Display × σ := (p.1, p.2.1)

theorem map_beginning {α : Type} {x : Except ControlError α} {f : α → Display × σ × List Exchange}
    {g : α → Display × σ} (h : ∀ a, unrecorded (f a) = g a) :
    (x.map f).map unrecorded = x.map g := by
  cases x with
  | error e => rfl
  | ok a => exact congrArg _ (h a)

theorem unrecorded_showCode (s : Service σ) (id : String) (d : Display) (w : σ)
    (log : List Exchange) :
    (d.showCode s.recorded id (w, log)).map unrecorded = d.showCode s id w := by
  apply map_beginning
  rintro ⟨t, d'⟩
  cases t <;> rfl

theorem unrecorded_refreshCode (s : Service σ) (id : String) (d : Display) (w : σ)
    (log : List Exchange) :
    (d.refreshCode s.recorded id (w, log)).map unrecorded = d.refreshCode s id w :=
  map_beginning fun _ => rfl

theorem unrecorded_use (s : Service σ) (id : String) (c : Control) (d : Display) (w : σ)
    (log : List Exchange) : (d.use s.recorded id c (w, log)).map unrecorded = d.use s id c w := by
  cases c with
  | code => exact unrecorded_showCode s id d w log
  | collapse => exact map_beginning fun _ => rfl
  | table => exact map_beginning fun _ => rfl

/-! ## Runs -/

/-- What happens to a display whose owner waits for every reply: an outcome lands, a control is
used, or code is asked for again. -/
inductive Turn where
  | land (n : Notice Analysis)
  | use (id : String) (c : Control)
  | refresh (id : String)

/-- What the diary keeps: that an outcome landed under the tag of analyses, and which model was
asked for. -/
inductive Mark where
  | landed
  | asked (id : String) (x : Exchange)

/-- A display with its service, and the diary of both, the latest mark first. -/
structure State (σ : Type) where
  display : Display := {}
  service : σ
  diary : List Mark := []

/-- What came for a model when it was last asked for, unless an outcome has landed since. -/
def lastReply? (id : String) : List Mark → Option (Except Reply.Failure String)
  | [] => none
  | .landed :: _ => none
  | .asked j x :: ms => if j = id then some x.reply else lastReply? id ms

/-- What is to hang for a model by the diary. -/
def hung? (id : String) (ms : List Mark) : Option String :=
  (lastReply? id ms).bind fun reply => reply.toOption.map Html.clean

/-- No code is there for a model: since an outcome last landed it has not been asked for, or in vain
the last time. -/
def Lacks (id : String) (ms : List Mark) : Prop :=
  lastReply? id ms = none ∨ ∃ f, lastReply? id ms = some (.error f)

namespace State

variable {r : State σ} {ms : List Mark}

def start (w : σ) : State σ := { service := w }

/-- The state behind an operation for a model. One that fails changes nothing. -/
def done (r : State σ) (id : String) :
    Except ControlError (Display × σ × List Exchange) → State σ
  | .ok (d, w, sent) => ⟨d, w, sent.map (.asked id) ++ r.diary⟩
  | .error _ => r

def after (s : Service σ) (r : State σ) : Turn → State σ
  | .land n =>
    { r with
      display := r.display.hear n
      diary := if n.tag = analysisTag then .landed :: r.diary else r.diary }
  | .use id c => r.done id (r.display.use s.recorded id c (r.service, []))
  | .refresh id => r.done id (r.display.refreshCode s.recorded id (r.service, []))

def run (s : Service σ) (r : State σ) (turns : List Turn) : State σ := turns.foldl (after s) r

/-- What hangs is what the diary says. -/
def Kept (r : State σ) : Prop := ∀ id, r.display.gallery.get? id = hung? id r.diary

theorem hung?_asked (id : String) (x : Exchange) (ms : List Mark) :
    (hung? · (.asked id x :: ms))
      = Function.update (hung? · ms) id (x.reply.toOption.map Html.clean) := by
  funext j
  by_cases h : j = id
  · rw [h, Function.update_self]
    simp [hung?, lastReply?]
  · rw [Function.update_of_ne h]
    simp [hung?, lastReply?, Ne.symm h]

theorem lacks_iff : Lacks id ms ↔ hung? id ms = none := by
  unfold Lacks hung?
  cases lastReply? id ms with
  | none => simp
  | some reply => cases reply <;> simp [Except.toOption]

theorem hung?_eq_some_iff {html : String} :
    hung? id ms = some html
      ↔ ∃ code, lastReply? id ms = some (.ok code) ∧ html = Html.clean code := by
  unfold hung?
  cases lastReply? id ms with
  | none => simp
  | some reply => cases reply <;> simp [Except.toOption, eq_comm]

theorem Kept.rest (h : Kept r) {d : Display} (hung : d.gallery = r.display.gallery) (w : σ) :
    Kept ⟨d, w, r.diary⟩ := by
  intro j
  rw [← h j, ← hung]

theorem Kept.asked (h : Kept r) {x : Exchange} {d : Display} (asked : r.display.AskedFor id x d)
    (w : σ) : Kept ⟨d, w, .asked id x :: r.diary⟩ := by
  have here : r.display.gallery.get? = (hung? · r.diary) := funext h
  intro j
  show d.gallery.get? j = (hung? · (.asked id x :: r.diary)) j
  rw [asked.hung, here, hung?_asked]

theorem Kept.land (h : Kept r) (n : Notice Analysis) : Kept (r.after s (.land n)) := by
  by_cases tag : n.tag = analysisTag
  · intro j
    simp [after, hear, tag, reset, hung?, lastReply?]
  · simpa [after, hear, tag] using h

theorem Kept.use (h : Kept r) (id : String) (c : Control) : Kept (r.after s (.use id c)) := by
  cases hu : r.display.use s.recorded id c (r.service, []) with
  | error f => simpa [after, done, hu] using h
  | ok p =>
    obtain ⟨d, w, sent⟩ := p
    have next : r.after s (.use id c) = ⟨d, w, sent.map (.asked id) ++ r.diary⟩ := by
      simp [after, done, hu]
    rw [next]
    by_cases hc : c = .code
    · subst hc
      rcases showCode_recorded hu with ⟨-, rfl, hung⟩ | ⟨-, x, rfl, asked⟩
      · exact h.rest hung w
      · exact h.asked asked w
    · obtain ⟨rfl, hung⟩ := move_recorded hc hu
      exact h.rest hung w

theorem Kept.refresh (h : Kept r) (id : String) : Kept (r.after s (.refresh id)) := by
  cases hr : r.display.refreshCode s.recorded id (r.service, []) with
  | error f => simpa [after, done, hr] using h
  | ok p =>
    obtain ⟨d, w, sent⟩ := p
    obtain ⟨x, rfl, asked⟩ := refreshCode_recorded hr
    simpa [after, done, hr] using h.asked asked w

theorem Kept.after (h : Kept r) (s : Service σ) (a : Turn) : Kept (r.after s a) := by
  cases a with
  | land n => exact h.land n
  | use id c => exact h.use id c
  | refresh id => exact h.refresh id

theorem kept_run (s : Service σ) (w : σ) (turns : List Turn) :
    Kept ((start w).run s turns) := by
  induction turns using List.reverseRecOn with
  | nil =>
    intro j
    rfl
  | append_singleton turns a ih =>
    rw [run, List.foldl_append]
    exact ih.after s a

/-- One turn without the diary. -/
def turn (s : Service σ) (p : Display × σ) : Turn → Display × σ
  | .land n => (p.1.hear n, p.2)
  | .use id c => (p.1.use s id c p.2).toOption.getD p
  | .refresh id => (p.1.refreshCode s id p.2).toOption.getD p

theorem done_unrecorded (r : State σ) (id : String)
    (x : Except ControlError (Display × σ × List Exchange)) :
    ((r.done id x).display, (r.done id x).service)
      = (x.map unrecorded).toOption.getD (r.display, r.service) := by
  cases x <;> rfl

/-- The diary is kept beside the run and changes nothing in it. -/
theorem run_unrecorded (s : Service σ) (r : State σ) (turns : List Turn) :
    ((r.run s turns).display, (r.run s turns).service)
      = turns.foldl (turn s) (r.display, r.service) := by
  induction turns generalizing r with
  | nil => rfl
  | cons a turns ih =>
    have one : ((r.after s a).display, (r.after s a).service)
        = turn s (r.display, r.service) a := by
      cases a with
      | land n => rfl
      | use id c => rw [after, done_unrecorded, unrecorded_use, turn]
      | refresh id => rw [after, done_unrecorded, unrecorded_refreshCode, turn]
    calc ((r.run s (a :: turns)).display, (r.run s (a :: turns)).service)
        = turns.foldl (turn s) ((r.after s a).display, (r.after s a).service) := ih (r.after s a)
      _ = (a :: turns).foldl (turn s) (r.display, r.service) := by rw [one, List.foldl_cons]

/-- However a display got where it is, to show the code of a model sends a request just when no code
is there for it, and to ask again always sends one. What hangs is what came last, if it was code. The
display and the service are where they would be if nothing were taken down. -/
theorem asks_as_needed (s : Service σ) (w : σ) (turns : List Turn) (id : String)
    (ran : (start w).run s turns = r) :
    (∀ d v sent, r.display.showCode s.recorded id (r.service, []) = .ok (d, v, sent) →
      (sent ≠ [] ↔ Lacks id r.diary) ∧ ∀ x ∈ sent, sent = [x] ∧ r.display.AskedFor id x d) ∧
    (∀ d v sent, r.display.refreshCode s.recorded id (r.service, []) = .ok (d, v, sent) →
      ∃ x, sent = [x] ∧ r.display.AskedFor id x d) ∧
    (∀ html, r.display.gallery.get? id = some html ↔
      ∃ code, lastReply? id r.diary = some (.ok code) ∧ html = Html.clean code) ∧
    (r.display, r.service) = turns.foldl (turn s) ((start w).display, w) := by
  have kept : Kept r := ran ▸ kept_run s w turns
  refine ⟨fun d v sent h => ?_, fun d v sent h => refreshCode_recorded h, fun html => ?_,
    ran ▸ run_unrecorded s (start w) turns⟩
  · rw [lacks_iff, ← kept id]
    rcases showCode_recorded h with ⟨hangs, rfl, -⟩ | ⟨empty, x, rfl, asked⟩
    · refine ⟨⟨fun h => absurd rfl h, fun empty => ?_⟩, nofun⟩
      rw [empty] at hangs
      cases hangs
    · refine ⟨⟨fun _ => empty, fun _ => List.cons_ne_nil _ _⟩, fun y hy => ?_⟩
      obtain rfl := List.mem_singleton.1 hy
      exact ⟨rfl, asked⟩
  · rw [kept id, hung?_eq_some_iff]

/-- A service that fails to highlight at first, and again at the third time. -/
def fitful : Canned where
  origin := ⟨"http://service.test", 0⟩
  highlights := [.status 500, .markup "code", .status 503]

/-- The code of a model is shown in vain, and then in earnest; at last it is asked for again. -/
def fitfulTurns : List Turn :=
  [.land ⟨analysisTag, 1, .success ⟨"s", [⟨"m", "M", ⟨0, 1⟩, [], ""⟩]⟩⟩, .use "m" .code,
    .use "m" .table, .use "m" .code, .refresh "m"]

def fitfulState (n : Nat) : State Canned := (start fitful).run Canned.service (fitfulTurns.take n)

/-- What hangs is shown without a request, and what was lost is asked for. -/
theorem asks_as_needed_fitful :
    (fitfulState 4).display.gallery.get? "m" = some (Html.clean "code") ∧
    (∃ d v, (fitfulState 4).display.showCode Canned.service.recorded "m"
      ((fitfulState 4).service, []) = .ok (d, v, [])) ∧
    (∃ d v x, (fitfulState 5).display.showCode Canned.service.recorded "m"
      ((fitfulState 5).service, []) = .ok (d, v, [x])) := by
  have run (n : Nat) := asks_as_needed Canned.service fitful (fitfulTurns.take n) "m"
    (r := fitfulState n) rfl
  obtain ⟨shown, -, hangs, -⟩ := run 4
  obtain ⟨lost, -⟩ := run 5
  refine ⟨(hangs _).2 ⟨"code", rfl, rfl⟩, ?_, ?_⟩
  · obtain ⟨d, v, sent, h⟩ : ∃ d v sent, (fitfulState 4).display.showCode Canned.service.recorded
        "m" ((fitfulState 4).service, []) = .ok (d, v, sent) := ⟨_, _, _, rfl⟩
    have hung : ¬Lacks "m" (fitfulState 4).diary := by
      rintro (h | ⟨f, h⟩) <;> cases h
    obtain rfl : sent = [] := by
      by_contra asked
      exact hung ((shown d v sent h).1.1 asked)
    exact ⟨d, v, h⟩
  · obtain ⟨d, v, sent, h⟩ : ∃ d v sent, (fitfulState 5).display.showCode Canned.service.recorded
        "m" ((fitfulState 5).service, []) = .ok (d, v, sent) := ⟨_, _, _, rfl⟩
    obtain ⟨needed, one⟩ := lost d v sent h
    obtain ⟨x, rest, rfl⟩ := List.exists_cons_of_ne_nil (needed.2 (.inr ⟨_, rfl⟩))
    obtain rfl : rest = [] := (List.cons.inj (one x (.head _)).1).2
    exact ⟨d, v, x, h⟩

end State
end Display
end SchemaBoard
