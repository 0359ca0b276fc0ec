import SchemaBoard.Proofs.Store.Recovery

/-!
# Listeners that come and go

A notice goes round those who are registered when its turn comes, whatever happens meanwhile. So a
listener that comes while notices wait in line is told of these too, though they landed before it
came, and one that goes while it waits in a round is told once more. What carries the proofs: nobody
is told of a write below the first one that it may still be told of, and whoever waits in a round is
reached by it unless someone fails. Main statements: `told_of_earlier_writes_iff`,
`told_after_leaving_iff`.
-/
namespace SchemaBoard

variable {L V : Type}

namespace Hub

variable {h g m e : Hub L V} {i : Nat}

/-- Those who wait in the round that is on. -/
def waiting (h : Hub L V) : List Nat := (h.store.round.map (·.waiting)).getD []

theorem waiting_of_round_none (hr : h.store.round = none) : h.waiting = [] := by
  simp [waiting, hr]

theorem waiting_of_round {r : Round V} (hr : h.store.round = some r) : h.waiting = r.waiting := by
  simp [waiting, hr]

theorem lt_of_mem_waiting {told : Nat → List Nat} (o : Ordered h told) (hi : i ∈ h.waiting) :
    i < h.store.subscribers.length := by
  cases hr : h.store.round with
  | none =>
    rw [waiting_of_round_none hr] at hi
    cases hi
  | some r =>
    rw [waiting_of_round hr] at hi
    exact (o.waiting r hr).2 i hi

theorem round_deed {p : Permit L} (d : Deed p h g) : g.store.round = h.store.round := by
  cases d with
  | aside hs hl hh hp => rw [hs]
  | _ => rfl

theorem round_deeds {p : Permit L} (d : Deeds p h g) : g.store.round = h.store.round := by
  induction d with
  | refl => rfl
  | tail _ d ih => exact (round_deed d).trans ih

theorem waiting_deeds {p : Permit L} (d : Deeds p h g) : g.waiting = h.waiting := by
  rw [waiting, round_deeds d, waiting]

/-- For whoever does not wait in the round that is on, all that may still come is in line. -/
theorem upTo_add_pending {told : Nat → List Nat} (o : Ordered h told) (hi : i ∉ h.waiting) :
    h.upTo i + h.store.pending.length = h.landed.length := by
  have hl := o.line_le
  cases hr : h.store.round with
  | none =>
    have hline : h.line.length = h.store.pending.length := by simp [line, hr]
    have hup : h.upTo i = h.turn := by simp [upTo, hr]
    unfold turn at hup
    omega
  | some r =>
    have hline : h.line.length = h.store.pending.length + 1 := by simp [line, hr]
    have hup : h.upTo i = h.turn + 1 := by
      rw [waiting_of_round hr] at hi
      simp [upTo, hr, hi]
    unfold turn at hup
    omega

theorem turn_pass {n : Notice V} {waiting : List Nat}
    (hr : h.store.round = some ⟨n, some i, waiting⟩) :
    (h.setRound (some ⟨n, none, waiting⟩)).turn = h.turn := by
  simp [turn, line, setRound, hr, landed]

/-! ## Slots and listeners -/

/-- What a slot holds is the place of a listener that came at some time. -/
def SlotsKnown (h : Hub L V) : Prop := ∀ q ∈ h.slots, q.2 < h.store.subscribers.length

theorem SlotsKnown.perform (k : SlotsKnown h) (asker : Option Nat) (r : Request L V) :
    SlotsKnown (h.perform asker r).1 := by
  intro q hq
  rcases mem_slots_perform hq with hq | ⟨-, hlt⟩
  · have hold := k q hq
    have hlen := (mem_listeners_of_deeds (deeds_request h asker r) hold).1
    omega
  · exact hlt

/-- A listener that comes is registered, whoever had its slot before. -/
theorem mem_listeners_fill (k : SlotsKnown h) (slot : String) (l : L) :
    h.store.subscribers.length ∈ (h.fill slot l).store.listeners := by
  have hin : h.store.subscribers.length ∈ (h.subscribe slot l).store.listeners := by
    simp [subscribe, Store.subscribe]
  have hfill : (h.fill slot l).store = ((h.subscribe slot l).vacate slot).1.store := rfl
  rw [hfill]
  unfold vacate
  split
  · rename_i j hj
    have hlt : j < h.store.subscribers.length := k _ (Keyed.mem_of_lookup hj)
    have hne : h.store.subscribers.length ≠ j := by omega
    unfold detach
    split
    · exact List.mem_filter.2 ⟨hin, by simpa using hne⟩
    · exact hin
  · exact hin

theorem mem_listeners_perform (k : SlotsKnown h) (ho : h.isOpen = true) (asker : Option Nat)
    (slot : String) (l : L) :
    h.store.subscribers.length ∈ (h.perform asker (.subscribe slot l)).1.store.listeners := by
  rw [perform_of_heard fun _ => ho]
  exact mem_listeners_fill k slot l

theorem listeners_vacate {slot : String} (hi : h.slots.lookup slot = some i)
    (ha : h.isAlive = true) :
    (h.vacate slot).1.store.listeners = h.store.listeners.filter (· ≠ i) := by
  simp [vacate, hi, detach, ha, Store.detach]

/-- Who loses its slot is no longer registered. -/
theorem notMem_listeners_perform {r : Request L V} {slot : String} (hr : r.vacated? = some slot)
    (heard : r.needsStore = true → h.isOpen = true) (ha : h.isAlive = true)
    (hi : h.slots.lookup slot = some i) (asker : Option Nat) :
    i ∉ (h.perform asker r).1.store.listeners := by
  rw [perform_of_heard heard]
  cases r with
  | subscribe s l =>
    obtain rfl := Option.some.inj hr
    have hv := listeners_vacate (h := h.subscribe s l) hi ha
    have hl : (h.fill s l).store.listeners
        = ((h.subscribe s l).vacate s).1.store.listeners := rfl
    simp [note, serve, hl, hv]
  | unsubscribe s =>
    obtain rfl := Option.some.inj hr
    simp [note, serve, listeners_vacate hi ha]
  | discard s =>
    obtain rfl := Option.some.inj hr
    simp [note, serve, listeners_vacate hi ha]
  | _ => cases hr

/-! ## A store that is gone -/

theorem store_vacate_of_gone (hd : h.isAlive = false) (slot : String) :
    (h.vacate slot).1.store = h.store := by
  unfold vacate
  split
  · simp [detach, hd]
  · rfl

theorem store_perform_of_gone (hd : h.isAlive = false) (asker : Option Nat) (r : Request L V) :
    (h.perform asker r).1.store = h.store := by
  have hc : h.isOpen = false := by
    simp only [isAlive, Bool.or_eq_false_iff] at hd
    exact hd.1
  cases hn : r.needsStore with
  | true => simp [Hub.perform, hn, hc, note]
  | false =>
    rw [perform_of_heard (by simp [hn])]
    cases r with
    | unsubscribe slot => exact store_vacate_of_gone hd slot
    | discard slot => exact store_vacate_of_gone hd slot
    | release => rfl
    | describeSlot slot => rfl
    | _ => cases hn

/-- What is gone does not come back. -/
theorem isAlive_perform_of_gone (hd : h.isAlive = false) (asker : Option Nat) (r : Request L V) :
    (h.perform asker r).1.isAlive = false := by
  simp only [isAlive, Bool.or_eq_false_iff] at hd ⊢
  refine ⟨?_, ?_⟩
  · rw [← Bool.not_eq_true]
    intro ho
    rw [isOpen_of_perform asker ho] at hd
    cases hd.1
  · rw [store_perform_of_gone (by simpa [isAlive] using hd)]
    exact hd.2

/-- What a listener that is not registered has been told of since `h`: nothing yet, or the write of
the round in which it waited. -/
def ToldAtMost (h : Hub L V) (i : Nat) (g : Hub L V) (ns : List Nat) : Prop :=
  ns = [] ∧ (i ∈ g.waiting → i ∈ h.waiting ∧ g.turn = h.turn) ∨
    ns = [h.turn] ∧ i ∈ h.waiting ∧ i ∉ g.waiting

theorem ToldAtMost.deeds {ns : List Nat} (t : ToldAtMost h i m ns) {p : Permit L}
    (d : Deeds p m g) : ToldAtMost h i g ns := by
  unfold ToldAtMost
  rw [waiting_deeds d, turn_deeds d]
  exact t

variable [Listener L V]

theorem SlotsKnown.course (k : SlotsKnown h) {bs : List (Beat L V)} (c : Course h bs g) :
    SlotsKnown g := by
  induction c with
  | rest => exact k
  | @ask m bs c asker r ih => exact SlotsKnown.perform (h := { m with fault := none }) ih asker r
  | @step m g bs c e ih =>
    rcases step?_cases e with s | ⟨j, l, r, -, -, rfl⟩
    · intro q hq
      rw [slots_step s] at hq
      rw [(listeners_step s).2]
      exact ih q hq
    · intro q hq
      simpa [consult, alter, Store.alter] using ih.perform (some j) r q hq

/-- Nothing is told by a store that is gone. -/
theorem numbers_of_gone (hd : h.isAlive = false) {bs : List (Beat L V)} (c : Course h bs g)
    (i : Nat) : g.isAlive = false ∧ numbers i bs = [] := by
  induction c with
  | rest => exact ⟨hd, rfl⟩
  | @ask m bs c asker r ih =>
    refine ⟨isAlive_perform_of_gone (h := { m with fault := none }) ih.1 asker r, ?_⟩
    simpa using ih.2
  | @step m g bs c e ih =>
    have idle : m.store.isIdle = true := by
      have hm := ih.1
      simp only [isAlive, Bool.or_eq_false_iff, Bool.not_eq_false'] at hm
      exact hm.2
    rw [(step?_eq_none_iff m).2 idle] at e
    cases e

/-! ## Single beats -/

theorem Course.eq_of_nil (c : Course h [] g) : g = h := by
  generalize hb : ([] : List (Beat L V)) = bs at c
  cases c with
  | rest => rfl
  | ask c asker r => simp at hb
  | step c e => simp at hb

/-- What is asked in a single beat is asked from outside, or by the listener that is being told. -/
theorem Course.asked_cases {asker : Option Nat} {r : Request L V}
    (c : Course h [.asked asker r] g) :
    g = (Hub.perform { h with fault := none } asker r).1 ∨
      ∃ j, asker = some j ∧ g = h.consult j r := by
  generalize hb : [Beat.asked asker r] = bs at c
  cases c with
  | rest => cases hb
  | @ask m bs c asker' r' =>
    have split : [] ++ [Beat.asked asker r] = bs ++ [.asked asker' r'] := hb
    obtain ⟨rfl, hx⟩ := List.append_inj' split rfl
    obtain ⟨rfl, rfl⟩ := Beat.asked.inj (List.cons.inj hx).1
    rw [c.eq_of_nil]
    exact .inl rfl
  | @step m g bs c e =>
    have split : [] ++ [Beat.asked asker r] = bs ++ [m.beat] := hb
    obtain ⟨rfl, hx⟩ := List.append_inj' split rfl
    obtain rfl := c.eq_of_nil
    rcases step?_cases e with s | ⟨j, l, r', -, hb, rfl⟩
    · rw [← (List.cons.inj hx).1] at s
      cases s
    · rw [hb] at hx
      obtain ⟨rfl, rfl⟩ := Beat.asked.inj (List.cons.inj hx).1
      exact .inr ⟨j, rfl, rfl⟩

theorem Course.deeds_of_asked {asker : Option Nat} {r : Request L V}
    (c : Course h [.asked asker r] g) : Deeds {} h g := by
  rcases c.asked_cases with rfl | ⟨j, rfl, rfl⟩
  · exact deeds_asked h asker r
  · exact deeds_consult_all h j r

/-! ## Listeners that come -/

theorem mem_listeners_asked (k : SlotsKnown h) (ho : h.isOpen = true) {asker : Option Nat}
    {slot : String} {l : L} (c : Course h [.asked asker (.subscribe slot l)] g) :
    h.store.subscribers.length ∈ g.store.listeners := by
  rcases c.asked_cases with rfl | ⟨j, rfl, rfl⟩
  · exact mem_listeners_perform (h := { h with fault := none }) k ho asker slot l
  · exact mem_listeners_perform k ho (some j) slot l

theorem upTo_step_le {told : Nat → List Nat} (o : Ordered h told) {b : Beat L V} (s : Step h b g)
    (i : Nat) : h.upTo i ≤ g.upTo i := by
  cases s with
  | @start n others hr hp =>
    have hold : h.upTo i = h.turn := by simp [upTo, hr]
    have hturn := Ordered.turn_start hr hp
    have hnew := turn_le_upTo (h.start n others) i
    omega
  | close hr => exact Nat.le_of_eq (o.upTo_close hr i).symm
  | @call n j waiting hr =>
    by_cases hj : j = i
    · subst hj
      have hold := Ordered.upTo_called hr
      have hturn := Ordered.turn_call hr
      have hnew := turn_le_upTo (h.call n j waiting) j
      omega
    · exact Nat.le_of_eq (Ordered.upTo_call_of_ne hr hj).symm
  | pass hr => exact Nat.le_of_eq (Ordered.upTo_pass hr i).symm
  | fail message hr => exact o.upTo_abandon _ message i

/-- A call tells a listener of the first write that it may still be told of. -/
theorem eq_upTo_of_step {b : Beat L V} (s : Step h b g) {k : Nat} (hk : k ∈ numbers i [b]) :
    k = h.upTo i := by
  cases s with
  | @call n j waiting hr =>
    rw [numbers_called] at hk
    split at hk
    · rename_i hj
      subst hj
      rw [List.mem_singleton.1 hk, Ordered.upTo_called hr]
    · cases hk
  | _ => cases hk

/-- From here on a listener is told of nothing below the first write that it may still be told of.
-/
theorem upTo_le_course {told : Nat → List Nat} {bs : List (Beat L V)} (c : Course h bs g)
    (o : Ordered h told) (i : Nat) : h.upTo i ≤ g.upTo i ∧ ∀ k ∈ numbers i bs, h.upTo i ≤ k := by
  induction c using Course.deeds_induction with
  | rest => exact ⟨Nat.le_refl _, by simp⟩
  | asked asker r c d ih =>
    exact ⟨Nat.le_trans ih.1 (Nat.le_of_eq (upTo_deeds d i).symm), by simpa using ih.2⟩
  | step c s ih =>
    refine ⟨Nat.le_trans ih.1 (upTo_step_le (ordered_course c o) s i), ?_⟩
    intro k hk
    rw [numbers_append, List.mem_append] at hk
    rcases hk with hk | hk
    · exact ih.2 k hk
    · rw [eq_upTo_of_step s hk]
      exact ih.1

/-- For a listener that comes, what may still come begins with the line. -/
theorem upTo_of_asked {told : Nat → List Nat} (o : Ordered h told) {asker : Option Nat}
    {r : Request L V} (c : Course h [.asked asker r] g) (hi : h.store.subscribers.length ≤ i) :
    g.upTo i + h.store.pending.length = h.landed.length := by
  have fresh : i ∉ h.waiting := by
    intro hw
    have := lt_of_mem_waiting o hw
    omega
  rw [upTo_deeds c.deeds_of_asked i]
  exact upTo_add_pending o fresh

theorem caughtUp_newcomer {p : Bool} {bs cs : List (Beat L V)} {asker : Option Nat}
    {slot : String} {l : L} (hb : Course { isPinned := p } bs h) (ho : h.isOpen = true)
    (hs : Course h [.asked asker (.subscribe slot l)] g) (hi : h.store.subscribers.length = i)
    (hc : Course g cs e) (sound : ∀ b ∈ cs, b.isFailed = false) (he : i ∈ e.store.listeners) :
    CaughtUp e (numbers i cs) i (g.upTo i) := by
  have slots : SlotsKnown h := SlotsKnown.course (fun q hq => by cases hq) hb
  have hg : i ∈ g.store.listeners := hi ▸ mem_listeners_asked slots ho hs
  exact caughtUp_since hc (ordered_course (hb.trans hs) (ordered_empty p)) sound hg he

/-- A listener that comes is told of nothing whose round has begun or is over by then. What it may
be told of although it landed before is just what waits in line. If nobody fails, the listener stays
and all comes to rest, then it heard everything from the first of these on, so it was told of no
earlier write exactly if none waited. -/
theorem told_of_earlier_writes_iff {p : Bool} {bs cs : List (Beat L V)} {asker : Option Nat}
    {slot : String} {l : L} (hb : Course { isPinned := p } bs h) (ho : h.isOpen = true)
    (hs : Course h [.asked asker (.subscribe slot l)] g) (hi : h.store.subscribers.length = i)
    (hc : Course g cs e) :
    (e.heard i).map some = (numbers i cs).map (e.landed[·]?) ∧
    (∀ k ∈ numbers i cs, h.landed.length ≤ k + h.store.pending.length) ∧
    ((∀ b ∈ cs, b.isFailed = false) → i ∈ e.store.listeners → e.store.isIdle = true →
      e.heard i = e.landed.drop (h.landed.length - h.store.pending.length) ∧
      ((∀ k ∈ numbers i cs, h.landed.length ≤ k) ↔ h.store.pending = [])) := by
  have oh : Ordered h fun j => numbers j bs := by simpa using ordered_course hb (ordered_empty p)
  have og : Ordered g fun j => numbers j bs := by simpa using ordered_course hs oh
  have oe : Ordered e fun j => numbers j bs ++ numbers j cs := ordered_course hc og
  have told : numbers i bs ++ numbers i cs = numbers i cs := by
    rw [oh.stranger i (Nat.le_of_eq hi), List.nil_append]
  have line : g.upTo i + h.store.pending.length = h.landed.length :=
    upTo_of_asked oh hs (Nat.le_of_eq hi)
  have lower := (upTo_le_course hc og i).2
  refine ⟨by rw [oe.heard i, told], ?_, ?_⟩
  · intro k hk
    have := lower k hk
    omega
  · intro sound he idle
    have all := caughtUp_newcomer hb ho hs hi hc sound he
    have first : g.upTo i = h.landed.length - h.store.pending.length := by omega
    refine ⟨by rw [heard_of_caughtUp oe idle (told.symm ▸ all), first], ?_⟩
    constructor
    · intro clean
      by_contra waits
      have hpos : 0 < h.store.pending.length := List.length_pos_iff.2 waits
      have hle : h.landed.length ≤ e.landed.length :=
        ((landed_course hs).trans (landed_course hc)).length_le
      -- the first of those that waited is a write from before
      have hmem : g.upTo i ∈ numbers i cs := by
        rw [all.2, upTo_of_isIdle idle, List.mem_range'_1]
        omega
      have := clean _ hmem
      omega
    · intro empty k hk
      have := lower k hk
      rw [empty, List.length_nil] at line
      omega

/-- Answers the value one with a write, and brings a listener then. -/
def usher : Script Nat :=
  .ofRules [⟨{ tag := some "t", value := some 1 }, 1,
    [.ask (.write "t" (.success 2)), .ask (.subscribe "b" (.ofRules []))]⟩]

def ushered : Hub (Script Nat) Nat := (Hub.perform {} none (.subscribe "a" usher)).1

/-- The usher has written and is about to bring the other. -/
def ushering : Hub (Script Nat) Nat := advance 3 (writing ushered 1)

theorem course_ushering : Course {} ([.asked none (.subscribe "a" usher),
    .asked none (.write "t" (.success 1))] ++ beats 3 (writing ushered 1)) ushering :=
  (((Course.rest {}).ask none (.subscribe "a" usher)).ask none (.write "t" (.success 1))).trans
    (course_advance 3 (writing ushered 1))

/-- The newcomer is told of the write that landed before it came. -/
theorem newcomer_told_of_earlier_write :
    (advance 20 (advance 1 ushering)).heard 1 = [⟨"t", 2, .success 2⟩] ∧
    ¬ ∀ k ∈ numbers 1 (beats 20 (advance 1 ushering)), ushering.landed.length ≤ k := by
  have comes : Course ushering [.asked (some 0) (.subscribe "b" (.ofRules []))]
      (advance 1 ushering) := course_advance 1 ushering
  obtain ⟨-, -, late⟩ := told_of_earlier_writes_iff (p := false) course_ushering rfl comes rfl
    (course_advance 20 (advance 1 ushering))
  obtain ⟨heard, replay⟩ := late (by decide) (by decide) (by decide)
  refine ⟨heard.trans (by decide), fun clean => ?_⟩
  have waits : ushering.store.pending ≠ [] := by decide
  exact waits (replay.1 clean)

/-! ## Listeners that go -/

theorem notMem_listeners_asked {r : Request L V} {slot : String} (hr : r.vacated? = some slot)
    (heard : r.needsStore = true → h.isOpen = true) (ha : h.isAlive = true)
    (hi : h.slots.lookup slot = some i) {asker : Option Nat} (c : Course h [.asked asker r] g) :
    i ∉ g.store.listeners := by
  rcases c.asked_cases with rfl | ⟨j, rfl, rfl⟩
  · exact notMem_listeners_perform (h := { h with fault := none }) hr heard ha hi asker
  · exact notMem_listeners_perform hr heard ha hi (some j)

/-- Who waits in a round is reached by it, registered or not, unless someone fails. -/
theorem reached_step {b : Beat L V} (s : Step h b g) (hb : b.isFailed = false)
    (hi : i ∈ h.waiting) : i ∈ g.waiting ∧ g.turn = h.turn ∨ h.turn ∈ numbers i [b] := by
  cases s with
  | start hr hp =>
    rw [waiting_of_round_none hr] at hi
    cases hi
  | close hr =>
    rw [waiting_of_round hr] at hi
    cases hi
  | @call n j waiting hr =>
    rw [waiting_of_round hr] at hi
    by_cases hj : j = i
    · right
      simp [numbers_called, hj]
    · left
      have hin : i ∈ waiting := (List.mem_cons.1 hi).resolve_left (Ne.symm hj)
      exact ⟨hin, Ordered.turn_call hr⟩
  | pass hr =>
    left
    rw [waiting_of_round hr] at hi
    exact ⟨hi, turn_pass hr⟩
  | fail message hr => cases hb

theorem reached_course {bs : List (Beat L V)} (c : Course h bs g)
    (sound : ∀ b ∈ bs, b.isFailed = false) (hi : i ∈ h.waiting) :
    i ∈ g.waiting ∧ g.turn = h.turn ∨ h.turn ∈ numbers i bs := by
  induction c using Course.deeds_induction with
  | rest => exact .inl ⟨hi, rfl⟩
  | asked asker r c d ih =>
    rcases ih fun b hm => sound b (List.mem_append_left _ hm) with ⟨hw, ht⟩ | hk
    · left
      exact ⟨(waiting_deeds d).symm ▸ hw, (turn_deeds d).trans ht⟩
    · exact .inr (by simpa using hk)
  | step c s ih =>
    rw [numbers_append, List.mem_append]
    rcases ih fun b hm => sound b (List.mem_append_left _ hm) with ⟨hw, ht⟩ | hk
    · rcases reached_step s (sound _ (by simp)) hw with ⟨hw', ht'⟩ | hk
      · exact .inl ⟨hw', ht'.trans ht⟩
      · rw [ht] at hk
        exact .inr (.inr hk)
    · exact .inr (.inl hk)

/-- A round that begins leaves it out, and a round in which it waits calls it once. -/
theorem ToldAtMost.step {told : Nat → List Nat} {ns : List Nat} (t : ToldAtMost h i m ns)
    (o : Ordered m told) (hi : i ∉ m.store.listeners) {b : Beat L V} (s : Step m b g) :
    ToldAtMost h i g (ns ++ numbers i [b]) := by
  have quiet (hn : numbers i [b] = []) (hw : i ∉ g.waiting) :
      ToldAtMost h i g (ns ++ numbers i [b]) := by
    rw [hn, List.append_nil]
    rcases t with ⟨rfl, -⟩ | ⟨rfl, hh, -⟩
    · exact .inl ⟨rfl, fun hg => absurd hg hw⟩
    · exact .inr ⟨rfl, hh, hw⟩
  cases s with
  | start hr hp => exact quiet rfl hi
  | close hr => exact quiet rfl List.not_mem_nil
  | @call n j waiting hr =>
    have hm : m.waiting = j :: waiting := waiting_of_round hr
    have hg : (m.call n j waiting).waiting = waiting := rfl
    have hturn : (m.call n j waiting).turn = m.turn := Ordered.turn_call hr
    by_cases hj : j = i
    · subst hj
      have hout : j ∉ waiting := (List.nodup_cons.1 (o.waiting _ hr).1).1
      rcases t with ⟨rfl, hw⟩ | ⟨-, -, hw⟩
      · obtain ⟨hh, ht⟩ := hw (by simp [hm])
        refine .inr ⟨?_, hh, by rwa [hg]⟩
        simp [numbers_called, ht]
      · exact absurd (by simp [hm]) hw
    · unfold ToldAtMost at t ⊢
      rw [numbers_called, if_neg hj, List.append_nil, hg, hturn]
      rw [hm] at t
      simpa [Ne.symm hj] using t
  | @pass n j waiting hr =>
    have hm : m.waiting = waiting := waiting_of_round hr
    have hg : (m.setRound (some ⟨n, none, waiting⟩)).waiting = waiting := rfl
    unfold ToldAtMost at t ⊢
    rw [numbers_quiet, List.append_nil, hg, turn_pass hr, ← hm]
    exact t
  | fail message hr => exact quiet rfl List.not_mem_nil

theorem toldAtMost_course {told : Nat → List Nat} {bs : List (Beat L V)} (c : Course h bs g)
    (o : Ordered h told) (hlen : i < h.store.subscribers.length) (hi : i ∉ h.store.listeners) :
    ToldAtMost h i g (numbers i bs) := by
  induction c using Course.deeds_induction with
  | rest => exact .inl ⟨rfl, fun hw => ⟨hw, rfl⟩⟩
  | asked asker r c d ih => simpa using ih.deeds d
  | @step bs m g b _ c s ih =>
    have hm : i ∉ m.store.listeners := fun hm => hi ((mem_listeners_of_course c hlen).2 hm)
    rw [numbers_append]
    exact ih.step (ordered_course c o) hm s

/-- Once a subscription is ended, in whatever way and by whomever, its listener is told at most once
more, and only of the write whose round is on and in which it still waits. Unless someone fails,
when that round is over it was told of nothing exactly if it did not wait in it. -/
theorem told_after_leaving_iff {p : Bool} {bs cs : List (Beat L V)} {asker : Option Nat}
    {r : Request L V} {slot : String} (hb : Course { isPinned := p } bs h)
    (hr : r.vacated? = some slot) (heard : r.needsStore = true → h.isOpen = true)
    (hi : h.slots.lookup slot = some i) (hs : Course h [.asked asker r] g) (hc : Course g cs e) :
    (e.heard i).map some = (h.heard i).map some ++ (numbers i cs).map (e.landed[·]?) ∧
    (numbers i cs = [] ∨ numbers i cs = [h.turn] ∧ i ∈ h.waiting) ∧
    ((∀ b ∈ cs, b.isFailed = false) → h.turn < e.turn → (numbers i cs = [] ↔ i ∉ h.waiting)) := by
  have oh : Ordered h fun j => numbers j bs := by simpa using ordered_course hb (ordered_empty p)
  have og : Ordered g fun j => numbers j bs := by simpa using ordered_course hs oh
  have slots : SlotsKnown h := SlotsKnown.course (fun q hq => by cases hq) hb
  have d := hs.deeds_of_asked
  have hwait : g.waiting = h.waiting := waiting_deeds d
  have hturn : g.turn = h.turn := turn_deeds d
  have told : numbers i cs = [] ∨ numbers i cs = [h.turn] ∧ i ∈ h.waiting := by
    cases ha : h.isAlive with
    | false => exact .inl (numbers_of_gone ha (hs.trans hc) i).2
    | true =>
      have hlen : i < h.store.subscribers.length := slots _ (Keyed.mem_of_lookup hi)
      have hlen' := (mem_listeners_of_deeds d hlen).1
      have left : i ∉ g.store.listeners := notMem_listeners_asked hr heard ha hi hs
      rcases toldAtMost_course hc og (by omega) left with ⟨hn, -⟩ | ⟨hn, hw, -⟩
      · exact .inl hn
      · exact .inr ⟨hturn ▸ hn, hwait ▸ hw⟩
  have heardSince := heard_course (hs.trans hc) oh i
  rw [numbers_append, numbers_asked, List.nil_append] at heardSince
  refine ⟨heardSince, told, ?_⟩
  intro sound past
  constructor
  · intro silent hw
    rcases reached_course hc sound (hwait.symm ▸ hw) with ⟨-, ht⟩ | hk
    · omega
    · rw [silent] at hk
      cases hk
  · intro hw
    exact told.resolve_right fun h => hw h.2

/-- Answers the value one by ending the subscription of another. -/
def bouncer : Script Nat :=
  .ofRules [⟨{ tag := some "t", value := some 1 }, 1, [.ask (.unsubscribe "b")]⟩]

/-- The bouncer, and a listener behind it that only hears. -/
def bounced : Hub (Script Nat) Nat :=
  (Hub.perform { (Hub.perform {} none (.subscribe "a" bouncer)).1 with fault := none } none
    (.subscribe "b" (.ofRules []))).1

/-- The bouncer is being told, and the other waits. -/
def bouncing : Hub (Script Nat) Nat := advance 2 (writing bounced 1)

theorem course_bouncing : Course {} ([.asked none (.subscribe "a" bouncer),
    .asked none (.subscribe "b" (.ofRules [])), .asked none (.write "t" (.success 1))]
      ++ beats 2 (writing bounced 1)) bouncing :=
  ((((Course.rest {}).ask none (.subscribe "a" bouncer)).ask none
    (.subscribe "b" (.ofRules []))).ask none (.write "t" (.success 1))).trans
      (course_advance 2 (writing bounced 1))

/-- The other is told though its subscription was ended before. -/
theorem leaver_told_while_waiting :
    (advance 1 bouncing).store.listeners = [0] ∧
    numbers 1 (beats 20 (advance 1 bouncing)) ≠ [] := by
  have goes : Course bouncing [.asked (some 0) (.unsubscribe "b")] (advance 1 bouncing) :=
    course_advance 1 bouncing
  obtain ⟨-, -, told⟩ := told_after_leaving_iff (p := false) (i := 1) course_bouncing rfl
    (fun _ => rfl) (by decide) goes (course_advance 20 (advance 1 bouncing))
  refine ⟨by decide, fun silent => ?_⟩
  have waits : 1 ∈ bouncing.waiting := by decide
  exact (told (by decide) (by decide)).1 silent waits

end Hub
end SchemaBoard
