import SchemaBoard.Proofs.Desk.Coherence
import SchemaBoard.Proofs.Desk.Operation
import SchemaBoard.Proofs.Store.Rest

/-!
# Superseded answers

Numbers are issued one after the other, and an answer lands only under the last one. So an answer
comes too late once another file has been taken in, or an analysis written, and whichever way the
answers to a batch of files come in, what stays is the answer to the file that was taken in last, in
the store and on the display. Listeners may even fail meanwhile: the display is told first of an
analysis, unless one lands while listeners are being told of something else. Main statement:
`later_uploads_supersede`.
-/
namespace SchemaBoard

variable {L V σ X : Type}

namespace Hub

/-- The notices in line that do not go next. -/
def behind (h : Hub L V) : List (Notice V) :=
  match h.store.round with
  | some _ => h.store.pending
  | none => h.store.pending.tail

theorem behind_land_of_isIdle {h : Hub L V} (hq : h.store.isIdle = true) (n : Notice V) :
    (h.land n).behind = [] := by
  simp only [Store.isIdle, Bool.and_eq_true, Option.isNone_iff_eq_none, List.isEmpty_iff] at hq
  simp [behind, land, Store.land, hq.1, hq.2]

theorem mem_behind_land {h : Hub L V} {n m : Notice V} (hm : m ∈ (h.land n).behind) :
    m ∈ h.behind ∨ m = n := by
  have hr : (h.land n).store.round = h.store.round := rfl
  have hp : (h.land n).store.pending = h.store.pending ++ [n] := rfl
  unfold behind at hm ⊢
  rw [hr, hp] at hm
  cases hround : h.store.round with
  | some r =>
    rw [hround] at hm
    simpa using hm
  | none =>
    rw [hround] at hm
    cases hpend : h.store.pending with
    | nil => simp [hpend] at hm
    | cons m' rest => simpa [hpend] using hm

theorem mem_behind_deeds {p : Permit L} {h g : Hub L V} (d : Deeds p h g) {m : Notice V}
    (hm : m ∈ g.behind) : m ∈ h.behind ∨ p.land m.tag := by
  induction d with
  | refl => exact .inl hm
  | tail _ d ih =>
    cases d with
    | land hn =>
      rcases mem_behind_land hm with hm | rfl
      · exact ih hm
      · exact .inr hn
    | aside hs hl hh hp =>
      unfold behind at hm
      rw [hs] at hm
      exact ih hm
    | _ => exact ih hm

theorem mem_behind_step [Listener L V] {h g : Hub L V} {b : Beat L V} (s : Step h b g)
    {m : Notice V} (hm : m ∈ g.behind) : m ∈ h.behind := by
  cases s with
  | start hr hp => simpa [behind, start, hr, hp] using hm
  | close hr => simpa [behind, setRound, hr] using List.mem_of_mem_tail hm
  | call hr => simpa [behind, call, note, setRound, alter, Store.alter, hr] using hm
  | pass hr => simpa [behind, setRound, hr] using hm
  | fail message hr => cases hm

/-- When a listener fails, what is out for the first display has not begun its round. -/
theorem unheard_of_fail [Listener X Analysis] {h g : Hub (Watcher X) Analysis}
    {b : Beat (Watcher X) Analysis} (s : Step h b g) (hb : b.isFailed = true) (f : Led h) :
    h.unheard 0 = h.behind := by
  cases s with
  | fail message hr =>
    rcases f.round _ hr with hw | ⟨hc, -⟩
    · simp only at hw
      simp [unheard, behind, hr, hw]
    · cases hc
  | _ => cases hb

end Hub

namespace Desk

theorem isSome_land?_iff (d : Desk σ X) (k : Nat) (reply : Except Reply.Failure Analysis) :
    (d.land? k reply).isSome = true ↔ k = d.hub.store.latest analysisTag := by
  simp only [land?, Hub.writeAt?, Option.isSome_map]
  split <;> simp_all

/-- No analysis waits in line behind anything else. -/
def Prompt (d : Desk σ X) : Prop := ∀ n ∈ d.hub.behind, n.tag ≠ analysisTag

/-- The answer under a number has landed, and the display will show it. -/
structure Landed (e : Desk σ X) (calm : Prop) (k : Nat) (o : Outcome Analysis) : Prop where
  entry : e.read analysisTag = some ⟨k, o⟩
  coherent : e.hub.Coherent
  prompt : calm ∨ e.Prompt

theorem landed_finished {e : Desk σ X} {calm : Prop} {k : Nat}
    (hk : k = e.hub.store.latest analysisTag) (reply : Except Reply.Failure Analysis)
    (hq : calm ∨ e.hub.store.isIdle = true) :
    Landed (e.finished k reply) calm k (outcome reply) := by
  rcases e.finished_cases k reply with ⟨hn, -⟩ | ⟨-, h⟩
  · exact absurd hk hn
  rw [h]
  refine ⟨Store.read_land _ ⟨analysisTag, k, outcome reply⟩, Hub.Coherent.land_self _ _, ?_⟩
  rcases hq with hq | hq
  · exact .inl hq
  · right
    intro n hn
    rw [Hub.behind_land_of_isIdle (h := { e.hub with fault := none }) hq] at hn
    cases hn

/-- One more answer comes: under the last number it lands, and under another it changes nothing. -/
theorem Landed.finished {e : Desk σ X} {result : Nat → Except Reply.Failure Analysis} {calm : Prop}
    {answered : List Nat} {j k : Nat} (hk : k = e.hub.store.latest analysisTag)
    (hq : calm ∨ e.hub.store.isIdle = true) (ha : k ∈ j :: answered)
    (before : k ∈ answered → Landed e calm k (outcome (result k))) :
    Landed (e.finished j (result j)) calm k (outcome (result k)) := by
  by_cases hjk : j = k
  · subst hjk
    exact landed_finished hk _ hq
  · rcases e.finished_cases j (result j) with ⟨-, h⟩ | ⟨hj, -⟩
    · rw [h]
      rcases List.mem_cons.1 ha with ha | ha
      · exact absurd ha.symm hjk
      · exact before ha
    · exact absurd (hj.trans hk.symm) hjk

variable [Listener X Analysis]

theorem latest_course {d e : Desk σ X} {as : List (Act X)} (c : Course d as e) (f : d.Fit)
    (t : String) :
    e.hub.store.latest t = d.hub.store.latest t + as.countP fun a => a.issued? = some t := by
  induction c with
  | rest => simp
  | @move m e as a c s ih =>
    rw [s.latest (fit_course c f) t, ih, List.countP_append]
    simp [List.countP_cons, Nat.add_assoc]

/-- What is kept under a tag changes only by an act that lets an entry land there. -/
theorem Move.read {d e : Desk σ X} {a : Act X} (f : d.Fit) (s : Move d a e) {t : String}
    (ht : a.landing? ≠ some t) : e.read t = d.read t := by
  unfold Desk.read
  rcases s.cases f with h | ⟨b, -, h⟩ | ⟨name, i, x, c, -, -, -, h⟩
  · refine h.keep (P := fun g => g.store.read t = d.hub.store.read t) (fun m g d hm => ?_) rfl
    rcases Hub.unheard_deed d with ⟨-, he⟩ | ⟨n, hn, rfl⟩
    · rw [← hm]
      simp [Store.read, he]
    · rw [← hm]
      exact Store.read_land_of_ne m.store n fun hte => ht (hn.trans (congrArg some hte.symm))
  · simp [Store.read, Hub.entries_step h]
  · rw [h]
    rfl

theorem Prompt.move {d e : Desk σ X} {a : Act X} (f : d.Fit) (s : Move d a e)
    (ha : a.landing? ≠ some analysisTag) (p : d.Prompt) : e.Prompt := by
  intro n hn
  rcases s.cases f with h | ⟨b, -, h⟩ | ⟨name, i, x, c, -, -, -, h⟩
  · rcases Hub.mem_behind_deeds h hn with hn | hn
    · exact p n hn
    · exact fun ht => ha (hn.trans (congrArg some ht))
  · exact p n (Hub.mem_behind_step h hn)
  · unfold Hub.behind at hn
    rw [h] at hn
    exact p n hn

/-- While analyses are prompt, a listener that fails takes none from the display. -/
theorem Prompt.unheard {d e : Desk σ X} {a : Act X} (f : d.Fit) (s : Move d a e) (p : d.Prompt)
    (ha : a.isFailed = true) : lastUnder analysisTag (d.hub.unheard 0) = none := by
  rw [lastUnder_eq_none_iff]
  cases s with
  | step he =>
    rcases Hub.step?_cases he with h | ⟨i, l, r, -, hb, -⟩
    · rw [Hub.unheard_of_fail h ha f.led]
      exact p
    · rw [hb] at ha
      cases ha
  | _ => cases ha

/-! ## What has nothing to do with analyses -/

/-- An act issues no number for analyses and lets none land, and in a calm time it is no failure. -/
structure Aside (calm : Prop) (a : Act X) : Prop where
  issued : a.issued? ≠ some analysisTag
  landing : a.landing? ≠ some analysisTag
  sound : calm → a.isFailed = false

omit [Listener X Analysis] in
/-- Beats are aside if those of them are that the log keeps. -/
theorem aside_of_noise {calm : Prop} {bs : List (Beat (Watcher X) Analysis)}
    (h : ∀ b ∈ (bs.map Act.beat).filterMap Act.noise?, Aside calm (.beat b : Act X)) :
    ∀ a ∈ bs.map Act.beat, Aside calm (a : Act X) := by
  intro a ha
  obtain ⟨b, -, rfl⟩ := List.mem_map.1 ha
  cases b with
  | asked asker r => exact h _ (List.mem_filterMap.2 ⟨_, ha, rfl⟩)
  | failed i => exact h _ (List.mem_filterMap.2 ⟨_, ha, rfl⟩)
  | called i k => exact ⟨nofun, nofun, fun _ => rfl⟩
  | quiet => exact ⟨nofun, nofun, fun _ => rfl⟩

theorem latest_of_aside {d e : Desk σ X} {as : List (Act X)} {calm : Prop} (c : Course d as e)
    (f : d.Fit) (aside : ∀ a ∈ as, Aside calm a) :
    e.hub.store.latest analysisTag = d.hub.store.latest analysisTag := by
  have none : (as.countP fun a => a.issued? = some analysisTag) = 0 := by
    simpa using fun a ha => (aside a ha).issued
  rw [latest_course c f, none, Nat.add_zero]

theorem Landed.move {d e : Desk σ X} {a : Act X} {calm : Prop} {k : Nat} {o : Outcome Analysis}
    (f : d.Fit) (s : Move d a e) (aside : Aside calm a) (l : Landed d calm k o) :
    Landed e calm k o := by
  refine ⟨(s.read f aside.landing).trans l.entry, s.coherent f (fun ha => ?_) l.coherent, ?_⟩
  · rcases l.prompt with hc | hp
    · rw [aside.sound hc] at ha
      cases ha
    · exact hp.unheard f s ha
  · rcases l.prompt with hc | hp
    · exact .inl hc
    · exact .inr (hp.move f s aside.landing)

theorem Landed.course {d e : Desk σ X} {as : List (Act X)} {calm : Prop} {k : Nat}
    {o : Outcome Analysis} (f : d.Fit) (c : Course d as e) (aside : ∀ a ∈ as, Aside calm a)
    (l : Landed d calm k o) : Landed e calm k o := by
  have kept := c.keep (P := fun m => m.Fit ∧ Landed m calm k o)
    (fun m n a ha s hm => ⟨hm.1.move s, hm.2.move hm.1 s (aside a ha)⟩) ⟨f, l⟩
  exact kept.2

variable [Bounded X Analysis]

/-- If nothing that the log keeps concerns analyses while an answer goes its way, nothing does. -/
theorem exists_aside_finish {e : Desk σ X} {k : Nat} {reply : Except Reply.Failure Analysis}
    {calm : Prop} (quiet : ∀ b ∈ noiseSince e (e.finish k reply).2, Aside calm (.beat b : Act X)) :
    ∃ as, Course (e.finished k reply) as (e.finish k reply).2 ∧ ∀ a ∈ as, Aside calm a := by
  obtain ⟨bs, c⟩ := course_finished e k reply
  have whole := (Course.of_move (.finish e k reply)).trans c
  rw [noiseSince_eq whole] at quiet
  exact ⟨_, c, aside_of_noise quiet⟩

/-! ## Batches -/

/-- A batch of files that are taken in from `d` on, with what is answered under each number: the
numbers issued so far, those under which an answer has come, and the desk by now. Beginnings,
answers and all else may come in any order, but nothing else issues numbers for analyses or lets one
land, also no listener that is told of an answer. In a calm batch no listener fails, and answers may
come at any moment; in any other batch they come when all is quiet. -/
inductive Batch (d : Desk σ X) (result : Nat → Except Reply.Failure Analysis) (calm : Prop) :
    List Nat → List Nat → Desk σ X → Prop where
  | rest : Batch d result calm [] [] d
  | begin {tickets answered : List Nat} {e : Desk σ X}
      (b : Batch d result calm tickets answered e) :
      Batch d result calm (tickets ++ [e.begin.1]) answered e.begin.2
  | finish {tickets answered : List Nat} {e : Desk σ X} (b : Batch d result calm tickets answered e)
      {k : Nat} (hk : k ∈ tickets) (hq : calm ∨ e.hub.store.isIdle = true)
      (quiet : ∀ b ∈ noiseSince e (e.finish k (result k)).2, Aside calm (.beat b : Act X)) :
      Batch d result calm tickets (k :: answered) (e.finish k (result k)).2
  /-- Of an answer that comes while listeners are being told, they are told later. -/
  | land {tickets answered : List Nat} {e : Desk σ X} (b : Batch d result calm tickets answered e)
      {k : Nat} (hk : k ∈ tickets) (hq : calm ∨ e.hub.store.isIdle = true) :
      Batch d result calm tickets (k :: answered) (e.finished k (result k))
  | others {tickets answered : List Nat} {e g : Desk σ X} {as : List (Act X)}
      (b : Batch d result calm tickets answered e) (c : Course e as g)
      (aside : ∀ a ∈ as, Aside calm a) : Batch d result calm tickets answered g

namespace Batch

variable {d e : Desk σ X} {result : Nat → Except Reply.Failure Analysis} {calm : Prop}
  {tickets answered : List Nat}

theorem fit (b : Batch d result calm tickets answered e) (f : d.Fit) : e.Fit := by
  induction b with
  | rest => exact f
  | @begin _ _ e b ih => exact ih.move (.begin e)
  | @finish _ _ e b k hk hq quiet ih =>
    obtain ⟨bs, c⟩ := course_finish e k (result k)
    exact fit_course c ih
  | @land _ _ e b k hk hq ih => exact ih.move (.finish e k (result k))
  | others b c aside ih => exact fit_course c ih

theorem latest (b : Batch d result calm tickets answered e) (f : d.Fit) :
    e.hub.store.latest analysisTag = d.hub.store.latest analysisTag + tickets.length := by
  have landed {e : Desk σ X} (fe : e.Fit) (k : Nat) :
      (e.finished k (result k)).hub.store.latest analysisTag
        = e.hub.store.latest analysisTag :=
    (Move.finish e k (result k)).latest fe analysisTag
  induction b with
  | rest => rfl
  | @begin _ _ e b ih =>
    rw [(Move.begin e).latest (b.fit f), ih, List.length_append]
    rfl
  | @finish _ _ e b k hk hq quiet ih =>
    obtain ⟨as, c, aside⟩ := exists_aside_finish quiet
    rw [latest_of_aside c ((b.fit f).move (.finish e k (result k))) aside, landed (b.fit f), ih]
  | land b hk hq ih => rw [landed (b.fit f), ih]
  | others b c aside ih => rw [latest_of_aside c (b.fit f) aside, ih]

/-- The tickets of a batch carry consecutive numbers. -/
theorem tickets_eq (b : Batch d result calm tickets answered e) (f : d.Fit) :
    tickets = List.range' (d.hub.store.latest analysisTag + 1) tickets.length := by
  induction b with
  | rest => rfl
  | @begin tickets _ e b ih =>
    have hn : e.begin.1 = d.hub.store.latest analysisTag + 1 + 1 * tickets.length := by
      have hb : e.begin.1 = e.hub.store.latest analysisTag + 1 := Store.latest_issue _ _
      rw [hb, b.latest f]
      omega
    rw [List.length_append, List.length_singleton, List.range'_concat, ← ih, hn]
  | finish b hk hq quiet ih => exact ih
  | land b hk hq ih => exact ih
  | others b c aside ih => exact ih

theorem answered_subset (b : Batch d result calm tickets answered e) : answered ⊆ tickets := by
  induction b with
  | rest => exact List.Subset.refl _
  | begin b ih => exact fun k hk => List.mem_append_left _ (ih hk)
  | finish b hk hq quiet ih => exact List.cons_subset.2 ⟨hk, ih⟩
  | land b hk hq ih => exact List.cons_subset.2 ⟨hk, ih⟩
  | others b c aside ih => exact ih

theorem le_latest (b : Batch d result calm tickets answered e) (f : d.Fit) {k : Nat}
    (hk : k ∈ tickets) : k ≤ e.hub.store.latest analysisTag := by
  rw [b.tickets_eq f, List.mem_range'_1] at hk
  rw [b.latest f]
  omega

/-- The last ticket has the last number. -/
theorem eq_latest_of_getLast? (b : Batch d result calm tickets answered e) (f : d.Fit) {k : Nat}
    (hk : tickets.getLast? = some k) : k = e.hub.store.latest analysisTag := by
  rw [b.tickets_eq f, List.getLast?_range'] at hk
  rw [b.latest f]
  split at hk
  · cases hk
  · have := Option.some.inj hk
    omega

end Batch

/-- Once an answer has come under the last number, it is there to stay. -/
theorem Batch.landed {d e : Desk σ X} {result : Nat → Except Reply.Failure Analysis} {calm : Prop}
    {tickets answered : List Nat} (b : Batch d result calm tickets answered e) (f : d.Fit) {k : Nat}
    (hk : tickets.getLast? = some k) (ha : k ∈ answered) :
    Landed e calm k (outcome (result k)) := by
  induction b with
  | rest => cases ha
  | @begin tickets answered e b ih =>
    -- No answer can have come under a number that has only now been issued.
    exfalso
    rw [List.getLast?_concat] at hk
    obtain rfl := Option.some.inj hk
    have hle := b.le_latest f (b.answered_subset ha)
    have hb : e.begin.1 = e.hub.store.latest analysisTag + 1 := Store.latest_issue _ _
    omega
  | @finish tickets answered e b j hj hq quiet ih =>
    obtain ⟨as, c, aside⟩ := exists_aside_finish quiet
    have l := Landed.finished (b.eq_latest_of_getLast? f hk) hq ha (ih hk)
    exact l.course ((b.fit f).move (.finish e j (result j))) c aside
  | land b hj hq ih => exact .finished (b.eq_latest_of_getLast? f hk) hq ha (ih hk)
  | others b c aside ih => exact (ih hk ha).course (b.fit f) c aside

/-- A batch that is over: every answer has come, and all is quiet. -/
structure Over (d : Desk σ X) (result : Nat → Except Reply.Failure Analysis) (calm : Prop)
    (tickets : List Nat) (e : Desk σ X) : Prop where
  answers : ∃ answered, Batch d result calm tickets answered e ∧ tickets ⊆ answered
  quiet : e.hub.store.isIdle = true

/-- After a batch the last ticket has the say. -/
theorem Over.last_stays {d e : Desk σ X} {result : Nat → Except Reply.Failure Analysis}
    {calm : Prop} {tickets : List Nat} (o : Over d result calm tickets e) (f : d.Fit) {k : Nat}
    (hk : tickets.getLast? = some k) :
    e.read analysisTag = some ⟨k, outcome (result k)⟩ ∧
      (e.display? mainName).map (·.analysis) = some (outcome (result k)).value? := by
  obtain ⟨answered, b, hs⟩ := o.answers
  have l := b.landed f hk (hs (List.mem_of_getLast? hk))
  obtain ⟨x, hx⟩ := (b.fit f).led.first
  have hv : e.hub.store.value analysisTag = (outcome (result k)).value? := by
    have hr : e.hub.store.read analysisTag = some ⟨k, outcome (result k)⟩ := l.entry
    rw [Store.value, hr]
    rfl
  refine ⟨l.entry, ?_⟩
  rw [display?_main, hx, Option.map_some, l.coherent.analysis_eq o.quiet hx, hv]

/-! ## Which answers are taken -/

/-- An answer is taken exactly if nothing has issued a number for analyses since its own. -/
theorem finish_begun_iff {d e : Desk σ X} {as : List (Act X)} (f : d.Fit)
    (c : Course d.begin.2 as e) (reply : Except Reply.Failure Analysis) :
    (e.finish d.begin.1 reply).1 = true ↔ ∀ a ∈ as, a.issued? ≠ some analysisTag := by
  have hn : d.begin.1 = d.begin.2.hub.store.latest analysisTag := rfl
  have none : (as.countP fun a => a.issued? = some analysisTag) = 0 ↔
      ∀ a ∈ as, a.issued? ≠ some analysisTag := by simp
  rw [finish_fst, isSome_land?_iff, latest_course c (f.move (.begin d)), hn, ← none]
  omega

/-- After an operation that supersedes, an answer to what was begun before is not taken. -/
theorem finish_after_superseding {d e : Desk σ X} {as : List (Act X)} (f : d.Fit)
    (c : Course d.begin.2 as e) (s : Remote.Service σ) (op : Op X) (ho : op.supersedes = true)
    (reply : Except Reply.Failure Analysis) :
    ((op.carry s e).finish d.begin.1 reply).1 = false := by
  obtain ⟨own, bs, k, only⟩ := course_carry s e op
  by_contra taken
  rw [Bool.not_eq_false, finish_begun_iff f (c.trans k), List.forall_mem_append,
    List.forall_mem_append] at taken
  rw [only.1 taken.2.1] at ho
  cases ho

/-- On any course of a desk: an answer is taken exactly if no number was issued for analyses since
its own. In a run of operations that is to say that no other file was begun, no file that is
accepted was taken in, no analysis was written, and no listener did the like meanwhile. An answer
that is not taken leaves everything as it is, what listeners were told included; and two batches of
equally many files that are taken in from there, with the same answers under the same numbers, end
with the same entry and the same analysis on show, whatever the order of the answers: those of the
file that was taken in last. -/
theorem later_uploads_supersede {w : σ} {d : Desk σ X} {as : List (Act X)}
    (c : Course (start w) as d) (s : Remote.Service σ)
    (result : Nat → Except Reply.Failure Analysis) :
    (∀ bs e reply, Course d.begin.2 bs e →
      ((e.finish d.begin.1 reply).1 = true ↔ ∀ a ∈ bs, a.issued? ≠ some analysisTag) ∧
      (e.begin.2.finish d.begin.1 reply).1 = false ∧
      (∀ f, f.isAccepted = true → ((e.upload s f).finish d.begin.1 reply).1 = false) ∧
      (∀ f, f.isAccepted = false → e.upload s f = e) ∧
      ∀ o, ((e.write analysisTag o).finish d.begin.1 reply).1 = false) ∧
    (∀ ops reply, ((run s d.begin.2 ops).finish d.begin.1 reply).1 = true ↔
      (∀ op ∈ ops, op.supersedes = false) ∧
        ∀ b ∈ noiseSince d.begin.2 (run s d.begin.2 ops),
          (Act.beat b : Act X).issued? ≠ some analysisTag) ∧
    (∀ k reply, (d.finish k reply).1 = false → (d.finish k reply).2 = d) ∧
    ∀ calm₁ calm₂ tickets₁ tickets₂ e₁ e₂, Over d result calm₁ tickets₁ e₁ →
      Over d result calm₂ tickets₂ e₂ → tickets₁.length = tickets₂.length → tickets₁ ≠ [] →
      ∃ k, tickets₁.getLast? = some k ∧ tickets₂.getLast? = some k ∧
        e₁.read analysisTag = some ⟨k, outcome (result k)⟩ ∧
        e₂.read analysisTag = e₁.read analysisTag ∧
        (e₁.display? mainName).map (·.analysis) = some (outcome (result k)).value? ∧
        (e₂.display? mainName).map (·.analysis) = (e₁.display? mainName).map (·.analysis) := by
  have f := fit_course c (fit_start w)
  refine ⟨fun bs e reply cb => ⟨finish_begun_iff f cb reply, ?_, ?_, ?_, ?_⟩,
    fun ops reply => ?_, fun k reply h => ?_, ?_⟩
  · exact finish_after_superseding f cb s .begin rfl reply
  · exact fun q hq => finish_after_superseding f cb s (.upload q) hq reply
  · intro q hq
    simp [upload, hq]
  · exact fun o => finish_after_superseding f cb s (.write analysisTag o)
      (decide_eq_true (rfl : analysisTag = analysisTag)) reply
  · obtain ⟨bs, cb, only⟩ := course_run s d.begin.2 ops
    rw [finish_begun_iff f cb, only]
  · rw [finish_fst] at h
    cases hl : d.land? k reply with
    | none => simp [finish, hl]
    | some m =>
      rw [hl] at h
      cases h
  · intro calm₁ calm₂ tickets₁ tickets₂ e₁ e₂ o₁ o₂ hlen hne
    have same : tickets₁ = tickets₂ := by
      obtain ⟨_, b₁, -⟩ := o₁.answers
      obtain ⟨_, b₂, -⟩ := o₂.answers
      rw [b₁.tickets_eq f, b₂.tickets_eq f, hlen]
    subst same
    have hk := List.getLast?_eq_some_getLast hne
    obtain ⟨hr₁, hs₁⟩ := o₁.last_stays f hk
    obtain ⟨hr₂, hs₂⟩ := o₂.last_stays f hk
    exact ⟨_, hk, hk, hr₁, hr₂.trans hr₁.symm, hs₁, hs₂.trans hs₁.symm⟩

/-! ## Two orders of two answers -/

/-- The first file fails, the second is analysed. -/
def twoAnswers : Nat → Except Reply.Failure Analysis
  | 2 => .ok secondAnalysis
  | _ => .error (.status "u" 500)

def fresh : Desk Unit Empty := start ()

/-- A service that is always down. -/
def downService : Remote.Service Unit where
  analyse _ _ := (.error (.status "u" 503), ())
  highlight _ _ := (.error (.status "u" 503), ())

/-- The first answer comes before the second file is taken in. -/
def oneByOne : Desk Unit Empty :=
  ((fresh.begin.2.finish 1 (twoAnswers 1)).2.begin.2.finish 2 (twoAnswers 2)).2

/-- The first answer comes after the second. -/
def crossed : Desk Unit Empty :=
  ((fresh.begin.2.begin.2.finish 2 (twoAnswers 2)).2.finish 1 (twoAnswers 1)).2

def rested (d : Desk Unit Empty) : Desk Unit Empty := { d with hub := Hub.advance 10 d.hub }

theorem finish_eq_rested {d : Desk Unit Empty} {k : Nat} {reply : Except Reply.Failure Analysis}
    (taken : (d.land? k reply).isSome = true)
    (quiet : (rested (d.finished k reply)).hub.step? = none) :
    (d.finish k reply).2 = rested (d.finished k reply) := by
  obtain ⟨e, he⟩ := Option.isSome_iff_exists.1 taken
  simp only [finished, he, Option.getD_some, rested] at quiet ⊢
  simp only [finish, he, Hub.settle_eq_of_advance quiet]

/-- In a batch of these files, an answer comes when all is quiet, and nobody says anything to it. -/
theorem Batch.finish_rested {d : Desk Unit Empty} {tickets answered : List Nat}
    (b : Batch fresh twoAnswers False tickets answered d) {k : Nat} (hk : k ∈ tickets)
    (quiet : d.hub.store.isIdle = true) (taken : (d.land? k (twoAnswers k)).isSome = true)
    (rest : (rested (d.finished k (twoAnswers k))).hub.step? = none)
    (silent : noiseSince d (rested (d.finished k (twoAnswers k))) = []) :
    Batch fresh twoAnswers False tickets (k :: answered) (rested (d.finished k (twoAnswers k))) := by
  have done := finish_eq_rested taken rest
  have b' := b.finish hk (.inr quiet) (by simp [done, silent])
  rwa [done] at b'

theorem over_oneByOne : Over fresh twoAnswers False [1, 2] oneByOne := by
  have b₀ : Batch fresh twoAnswers False [1] [] fresh.begin.2 := Batch.rest.begin
  have b₁ := b₀.finish_rested (k := 1) (by decide) (by decide) (by decide) rfl rfl
  have b₂ : Batch fresh twoAnswers False [1, 2] [1] _ := b₁.begin
  have b₃ := b₂.finish_rested (k := 2) (by decide) (by decide) (by decide) rfl rfl
  have same : oneByOne = rested ((rested (fresh.begin.2.finished 1 (twoAnswers 1))).begin.2.finished
      2 (twoAnswers 2)) := by
    rw [oneByOne, finish_eq_rested (d := fresh.begin.2) (by decide) rfl,
      finish_eq_rested (by decide) rfl]
  rw [same]
  exact ⟨⟨[2, 1], b₃, by decide⟩, by decide⟩

theorem over_crossed : Over fresh twoAnswers False [1, 2] crossed := by
  have b₀ : Batch fresh twoAnswers False [1, 2] [] fresh.begin.2.begin.2 := Batch.rest.begin.begin
  have b₁ := b₀.finish_rested (k := 2) (by decide) (by decide) (by decide) rfl rfl
  have late : ((rested (fresh.begin.2.begin.2.finished 2 (twoAnswers 2))).finish 1
      (twoAnswers 1)).2 = rested (fresh.begin.2.begin.2.finished 2 (twoAnswers 2)) := rfl
  have b₂ := b₁.finish (k := 1) (by decide) (.inr (by decide)) (by simp [late, noiseSince])
  have same : crossed = ((rested (fresh.begin.2.begin.2.finished 2 (twoAnswers 2))).finish 1
      (twoAnswers 1)).2 := by
    rw [crossed, finish_eq_rested (d := fresh.begin.2.begin.2) (by decide) rfl]
  rw [same]
  exact ⟨⟨[1, 2], b₂, by decide⟩, by rw [late]; decide⟩

/-- Either way the second analysis stays, and the answer to the first file is not taken once the
second has been taken in. -/
theorem crossed_like_oneByOne :
    oneByOne.read analysisTag = some ⟨2, .success secondAnalysis⟩ ∧
    crossed.read analysisTag = oneByOne.read analysisTag ∧
    (fresh.begin.2.begin.2.finish 1 (twoAnswers 1)).1 ≠ true ∧
    ((fresh.begin.2.upload downService ⟨"b.prisma", .empty⟩).finish 1 (twoAnswers 1)).1 = false := by
  obtain ⟨taken, ran, -, agree⟩ :=
    later_uploads_supersede (Course.rest fresh) downService twoAnswers
  obtain ⟨k, hk, -, hr, hs, -⟩ := agree _ _ _ _ _ _ over_oneByOne over_crossed rfl (by decide)
  obtain rfl : 2 = k := Option.some.inj hk
  obtain ⟨-, -, uploaded, -⟩ := taken [] _ (twoAnswers 1) (.rest _)
  refine ⟨hr, hs, fun h => ?_, uploaded _ (by decide +kernel)⟩
  have none_since := ((ran [.begin] (twoAnswers 1)).1 h).1
  exact absurd (none_since .begin (by simp)) (by decide)

end Desk
end SchemaBoard
