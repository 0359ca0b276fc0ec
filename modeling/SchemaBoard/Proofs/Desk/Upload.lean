import SchemaBoard.Proofs.Desk.Supersession
import SchemaBoard.Proofs.Remote.Receipt
import SchemaBoard.Proofs.Reply.RoundTrip

/-!
# What a file does to a desk

A file is refused, and nothing at all has happened; or it is sent, and whatever the client reports
becomes the next entry, an analysis or the message of a failure. With no listener but its own
display a desk comes to rest in four steps, so the whole state behind a file is known. Main
statements: `settle_alone`, `upload_absorbs`.
-/
namespace SchemaBoard

open Remote (Wire Client Origin partName)

variable {σ X : Type}

namespace Hub

variable {h : Hub (Watcher X) Analysis} {n : Notice Analysis} {x : Display}

/-- The first display is the only listener if there is but one. -/
theorem Led.listeners_eq (led : Led h) (alone : h.store.count = 1) : h.store.listeners = [0] := by
  obtain ⟨rest, listeners, -⟩ := led.listeners
  have none : rest.length = 0 := by
    rw [Store.count, listeners, List.length_cons] at alone
    omega
  rw [listeners, List.length_eq_zero_iff.1 none]

variable [Listener X Analysis]

/-- A hub whose one display has heard of a notice that landed there, and all is quiet again. -/
def told (h : Hub (Watcher X) Analysis) (n : Notice Analysis) : Hub (Watcher X) Analysis :=
  { (h.land n).alter 0 (Listener.hear · n) with
    store := { ((h.land n).alter 0 (Listener.hear · n)).store with round := none, pending := [] }
    log := .called 0 n :: .stored n :: h.log }

theorem shown_told (hx : h.shown 0 = some x) (n : Notice Analysis) :
    (h.told n).shown 0 = some (x.hear n) := by
  have heard : (h.told n).shown 0 = ((h.land n).alter 0 (Listener.hear · n)).shown 0 := rfl
  obtain ⟨l, hl, hd⟩ := Option.bind_eq_some_iff.1 hx
  have here : (h.land n).store.state? 0 = some l := hl
  rw [heard, shown_alter, if_pos rfl, here]
  cases l with
  | display y =>
    obtain rfl := Option.some.inj hd
    rfl
  | other y => cases hd

/-- The listener that is told has heard. -/
theorem state?_call_self (h : Hub (Watcher X) Analysis) (n : Notice Analysis) (i : Nat)
    (waiting : List Nat) : (h.call n i waiting).store.state? i
      = (h.store.state? i).map (Listener.hear · n) := by
  simp only [Store.state?, call, note, setRound, alter, Store.alter, List.getElem?_modify_eq,
    Option.map_eq_map, Option.map_map]
  rfl

/-- A display asks for nothing when it has heard. -/
theorem follow_display {i : Nat} {waiting : List Nat}
    (hx : h.store.state? i = some (.display x)) :
    h.follow n i waiting = h.setRound (some ⟨n, none, waiting⟩) := by
  rw [follow, hx]
  rfl

@[simp] theorem landed_told (h : Hub (Watcher X) Analysis) (n : Notice Analysis) :
    (h.told n).landed = h.landed ++ [n] :=
  List.reverse_cons

theorem read_told (h : Hub (Watcher X) Analysis) (n : Notice Analysis) (tag : String) :
    (h.told n).store.read tag = if tag = n.tag then some n.entry else h.store.read tag := by
  have kept : (h.told n).store.read tag = (h.store.land n).read tag := rfl
  by_cases same : tag = n.tag
  · rw [kept, if_pos same, same, Store.read_land]
  · rw [kept, if_neg same, Store.read_land_of_ne _ _ same]

variable [Bounded X Analysis]

/-- With a display as the only listener, what lands is heard once and then all is quiet. -/
theorem settle_alone (quiet : h.store.isIdle = true) (alone : h.store.listeners = [0])
    (hx : h.shown 0 = some x) (n : Notice Analysis) : (h.land n).settle = h.told n := by
  simp only [Store.isIdle, Bool.and_eq_true, Option.isNone_iff_eq_none, List.isEmpty_iff] at quiet
  obtain ⟨noRound, noPending⟩ := quiet
  obtain ⟨l, hl, hx⟩ := Option.bind_eq_some_iff.1 hx
  cases l with
  | other y => cases hx
  | display y =>
    -- the round is begun, the display is told, it asks for nothing, and the round is closed
    have begun : (h.land n).step? = some ((h.land n).start n []) := by
      simp [step?, land, Store.land, noRound, noPending]
    have called : ((h.land n).start n []).step? = some (((h.land n).start n []).call n 0 []) := by
      simp [step?, start, land, Store.land, alone]
    have heard : (((h.land n).start n []).call n 0 []).store.state? 0
        = some (.display (y.hear n)) := by
      rw [state?_call_self]
      exact congrArg (Option.map (Listener.hear · n)) hl
    have through : (((h.land n).start n []).call n 0 []).step?
        = some ((((h.land n).start n []).call n 0 []).setRound (some ⟨n, none, []⟩)) := by
      rw [← follow_display heard]
      rfl
    have closed : ((((h.land n).start n []).call n 0 []).setRound (some ⟨n, none, []⟩)).step?
        = some (h.told n) := rfl
    rw [settle_of_step? begun, settle_of_step? called, settle_of_step? through,
      settle_of_step? closed, settle_of_step?_none rfl]

end Hub

namespace Desk

variable {d : Desk σ X} {f : Intake.File} {s : Remote.Service σ} {x : Display}

/-- A desk has taken in one outcome: it went under the next number, one entry was kept, the display
shows it and nothing else, and all is quiet with nothing gone wrong. -/
structure Takes (d : Desk σ X) (o : Outcome Analysis) (e : Desk σ X) : Prop where
  numbers : ∀ tag, e.hub.store.latest tag
    = d.hub.store.latest tag + if tag = analysisTag then 1 else 0
  entries : ∀ tag, e.read tag
    = if tag = analysisTag then some ⟨d.hub.store.latest analysisTag + 1, o⟩ else d.read tag
  landed : e.hub.landed
    = d.hub.landed ++ [⟨analysisTag, d.hub.store.latest analysisTag + 1, o⟩]
  shown : ∃ y, e.display? mainName = some y ∧ y.analysis = o.value? ∧ y.focus = none ∧
    y.gallery.items = []
  sound : e.hub.fault = none
  quiet : e.hub.store.isIdle = true

theorem outcome_eq_success_iff {reply : Except Reply.Failure Analysis} {a : Analysis} :
    outcome reply = .success a ↔ reply = .ok a := by
  cases reply <;> simp [outcome]

theorem outcome_eq_failure_iff {reply : Except Reply.Failure Analysis} {message : String} :
    outcome reply = .failure message ↔ ∃ e, reply = .error e ∧ e.message = message := by
  cases reply <;> simp [outcome]

variable [Listener X Analysis]

/-- The number of the file that began to be taken in last, with no number issued for an analysis
since. -/
def LastBegun (w : σ) (d : Desk σ X) (k : Nat) : Prop :=
  ∃ (m : Desk σ X) (as bs : List (Act X)), Course (start w) as m ∧ m.begin.1 = k ∧
    Course m.begin.2 bs d ∧ ∀ a ∈ bs, a.issued? ≠ some analysisTag

theorem LastBegun.eq_latest {w : σ} {k : Nat} (h : LastBegun w d k) :
    k = d.hub.store.latest analysisTag := by
  obtain ⟨m, as, bs, c, rfl, later, none⟩ := h
  have fit : m.begin.2.Fit := fit_course (c.move (.begin m)) (fit_start w)
  have since : bs.countP (fun a => a.issued? = some analysisTag) = 0 := by
    simpa [List.countP_eq_zero] using none
  rw [latest_course later fit analysisTag, since]
  rfl

variable [Bounded X Analysis]

/-- A file that is refused is not sent and changes nothing. -/
theorem upload_of_refused {r : Intake.Refusal} (refused : f.check = .error r)
    (s : Remote.Service σ) (d : Desk σ X) : d.upload s f = d := by
  simp [upload, Intake.File.isAccepted, refused, Except.isOk, Except.toBool]

theorem finish_latest {k : Nat} (hk : k = d.hub.store.latest analysisTag)
    (reply : Except Reply.Failure Analysis) :
    d.finish k reply = (true, { d with
      hub := (Hub.land { d.hub with fault := none } ⟨analysisTag, k, outcome reply⟩).settle }) := by
  simp [finish, land?, Hub.writeAt?, hk]

theorem upload_of_accepted (accepted : f.check = .ok ()) (quiet : d.hub.store.isIdle = true)
    (alone : d.hub.store.listeners = [0]) (hx : d.hub.shown 0 = some x) :
    d.upload s f = { d with
      hub := Hub.told { d.hub.issue analysisTag with fault := none }
        ⟨analysisTag, d.hub.store.latest analysisTag + 1, outcome (s.analyse d.service f).1⟩
      service := (s.analyse d.service f).2 } := by
  have sent : f.isAccepted = true := by rw [Intake.File.isAccepted, accepted]; rfl
  have number : (d.hub.issue analysisTag).store.latest analysisTag
      = d.hub.store.latest analysisTag + 1 := Store.latest_issue _ _
  rw [← Hub.settle_alone (h := { d.hub.issue analysisTag with fault := none }) quiet alone hx,
    upload, if_pos sent, ← number]
  exact congrArg Prod.snd (finish_latest rfl _)

/-- What the service answers is what the desk takes in. -/
theorem takes_upload (accepted : f.check = .ok ()) (quiet : d.hub.store.isIdle = true)
    (alone : d.hub.store.listeners = [0]) (hx : d.hub.shown 0 = some x) :
    Takes d (outcome (s.analyse d.service f).1) (d.upload s f) := by
  rw [upload_of_accepted accepted quiet alone hx]
  constructor
  · intro tag
    exact (Hub.latest_issue d.hub analysisTag tag).trans (by simp [eq_comm])
  · exact fun tag => Hub.read_told _ _ tag
  · exact Hub.landed_told _ _
  · have issued : Hub.shown { d.hub.issue analysisTag with fault := none } 0 = some x := hx
    refine ⟨_, (display?_main _).trans (Hub.shown_told issued _), ?_⟩
    simp [Display.hear, Display.reset, Gallery.clear]
  · rfl
  · rfl

theorem service_upload (accepted : f.check = .ok ()) (quiet : d.hub.store.isIdle = true)
    (alone : d.hub.store.listeners = [0]) (hx : d.hub.shown 0 = some x) :
    (d.upload s f).service = (s.analyse d.service f).2 := by
  rw [upload_of_accepted accepted quiet alone hx]

/-- Whatever a file is, whatever the client and wherever the service, to take the file in comes to
an end. A file that is refused leaves the desk as it is, the client included, so that the last one
on its way still lands. Any other is posted once, and whatever is reported is entered once: as the
analysis if it is a success with a text that is decoded, and else as the message of what went wrong;
and that is all that is shown. -/
theorem upload_absorbs {c : Client σ} {o : Origin} {w : σ} {d : Desk σ X} {as : List (Act X)}
    (course : Course (start w) as d) (quiet : d.hub.store.isIdle = true)
    (alone : d.hub.store.count = 1) (f : Intake.File) :
    (∀ refusal, f.check = .error refusal → d.upload (c.service o) f = d ∧
      ∀ k, LastBegun w d k → ∀ reply, ((d.upload (c.service o) f).finish k reply).1 = true) ∧
    (f.check = .ok () → ∀ r v,
      c.post d.service o.analyseUrl (.form partName f.name f.contents) = (r, v) →
      (d.upload (c.service o) f).service = v ∧
      ∃ out, Takes d out (d.upload (c.service o) f) ∧
        (∀ a, out = .success a ↔
          ∃ text, r.Carries text ∧ Reply.decodeAnalysis o.analyseUrl text = .ok a) ∧
        (∀ message, out = .failure message ↔
          ∃ e, r.Fails o.analyseUrl e ∧ e.message = message)) := by
  have fit : d.Fit := fit_course course (fit_start w)
  obtain ⟨x, hx⟩ := fit.led.first
  constructor
  · intro refusal refused
    rw [upload_of_refused refused]
    refine ⟨rfl, fun k begun reply => ?_⟩
    rw [finish_fst, isSome_land?_iff]
    exact begun.eq_latest
  · intro accepted r v posted
    have analysed : (c.service o).analyse d.service f
        = ((r.body o.analyseUrl).bind (Reply.decodeAnalysis o.analyseUrl), v) := by
      simp only [Client.service, Client.analyse, posted]
    have listens := fit.led.listeners_eq alone
    have taken := takes_upload (s := c.service o) accepted quiet listens hx
    have left := service_upload (s := c.service o) accepted quiet listens hx
    rw [analysed] at taken left
    refine ⟨left, _, taken, fun a => ?_, fun message => ?_⟩
    · rw [outcome_eq_success_iff, Remote.Receipt.analysis_ok_iff]
    · simp only [outcome_eq_failure_iff, Remote.Receipt.analysis_error_iff]

/-! ## Two servers -/

def local8080 : Origin := ⟨"http://service.test:8080", 10000⟩

/-- A server behind a number of its own that answers once. -/
def serving (answer : Remote.WireAnswer) : Wire where
  origin := local8080
  host := "service.test"
  portNumber := some 8080
  answers := [answer]

/-- A desk on which a file is on its way. -/
def begun (answer : Remote.WireAnswer) : Desk Wire Empty := (start (serving answer)).begin.2

def unavailable : Remote.WireAnswer := .full 503 none [] 0

/-- An analysis, in a body of UTF-8. -/
def analysing : Remote.WireAnswer :=
  .full 200 (some "application/json") (Text.utf8Bytes secondAnalysis.toValue.print) 0

def address8080 : Remote.Address :=
  ⟨"http", "service.test", some 8080, "/api/v1/visualise", none⟩

theorem parse_address8080 :
    Remote.Address.parse? some local8080.analyseUrl = some address8080 := by
  decide +kernel

/-- The text is refused, and the first file would still land; a second file fails with the status of
the server, or brings the analysis in the body. -/
theorem three_files_absorbed :
    (begun analysing).upload (Wire.client.service local8080) ⟨"notes.txt", .empty⟩
      = begun analysing ∧
    (∀ reply, (((begun analysing).upload (Wire.client.service local8080)
      ⟨"notes.txt", .empty⟩).finish 1 reply).1 = true) ∧
    ((begun unavailable).upload (Wire.client.service local8080)
      ⟨"b.prisma", .empty⟩).read analysisTag = some ⟨2, .failure
        "http://service.test:8080/api/v1/visualise answered with status 503"⟩ ∧
    ((begun analysing).upload (Wire.client.service local8080) ⟨"b.prisma", .empty⟩).read
      analysisTag = some ⟨2, .success secondAnalysis⟩ := by
  have course (answer : Remote.WireAnswer) :
      Course (start (serving answer)) [.begin] (begun answer) := .of_move (.begin _)
  have one : LastBegun (serving analysing) (begun analysing) 1 :=
    ⟨start (serving analysing), [], [], .rest _, rfl, .rest _, fun _ h => absurd h List.not_mem_nil⟩
  have absorbs (answer : Remote.WireAnswer) (f : Intake.File) :=
    upload_absorbs (c := Wire.client) (o := local8080) (course answer) rfl rfl f
  obtain ⟨same, lands⟩ :=
    (absorbs analysing ⟨"notes.txt", .empty⟩).1 (.extension "notes.txt") (by decide +kernel)
  refine ⟨same, lands 1 one, ?_, ?_⟩
  · have posted := Wire.post_of_reached (w := serving unavailable) parse_address8080
      (by decide +kernel) (.form partName "b.prisma" .empty)
    obtain ⟨-, out, taken, -, failed⟩ :=
      (absorbs unavailable ⟨"b.prisma", .empty⟩).2 (by decide +kernel) (.answered 503 (.ok "")) _
        posted
    rw [taken.entries, if_pos rfl, (failed _).2 ⟨_, .refused _ rfl, rfl⟩]
    rfl
  · obtain ⟨-, out, taken, brought, -⟩ :=
      (absorbs analysing ⟨"b.prisma", .empty⟩).2 (by decide +kernel) _ _ rfl
    have carried : ((serving analysing).post local8080.analyseUrl
        (.form partName "b.prisma" .empty)).1.Carries secondAnalysis.toValue.print :=
      Wire.carries_text parse_address8080 (by decide +kernel) rfl rfl (by decide)
        (.plain (by decide +kernel) (by decide +kernel)) _
    rw [taken.entries, if_pos rfl,
      (brought secondAnalysis).2 ⟨_, carried, Reply.decodeAnalysis_print _ _⟩]
    rfl

end Desk
end SchemaBoard
