import Mathlib.Data.List.Induction
import SchemaBoard.Proofs.Store.Delivery

/-!
# Recovery from a failure

A listener that fails ends the round and takes the notices in line with it. The books of the store
stay: what is kept under each tag, the numbers issued and who is registered are those of a store
that carried out the same requests and told nobody. The numbers of writes carry the rest. A call
tells of the write whose turn it is, turns never go back, and a failure moves the turn past all
that has landed. Main statement: `recovers_from_failure`.
-/
namespace SchemaBoard

variable {L V : Type}

def Beat.request? : Beat L V → Option (Request L V)
  | .asked _ r => some r
  | _ => none

/-- The requests among beats, in their order. -/
def requests (bs : List (Beat L V)) : List (Request L V) := bs.filterMap Beat.request?

@[simp] theorem requests_nil : requests ([] : List (Beat L V)) = [] := rfl

@[simp] theorem requests_append (bs cs : List (Beat L V)) :
    requests (bs ++ cs) = requests bs ++ requests cs := by
  simp [requests]

@[simp] theorem requests_asked (asker : Option Nat) (r : Request L V) :
    requests [.asked asker r] = [r] := rfl

namespace Hub

/-! ## The books -/

/-- Carry out requests one after another and tell nobody. -/
def carryOut (h : Hub L V) (rs : List (Request L V)) : Hub L V :=
  rs.foldl (fun h r => (h.perform none r).1) h

@[simp] theorem carryOut_nil (h : Hub L V) : h.carryOut [] = h := rfl

@[simp] theorem carryOut_append (h : Hub L V) (rs qs : List (Request L V)) :
    h.carryOut (rs ++ qs) = (h.carryOut rs).carryOut qs := by
  simp [carryOut]

/-- Two hubs with the same books. They may differ in what is on its way, in the listeners' states
and in what was noted. -/
structure SameBooks (h g : Hub L V) : Prop where
  entries : g.store.entries = h.store.entries
  issued : g.store.issued = h.store.issued
  listeners : g.store.listeners = h.store.listeners
  places : g.store.subscribers.length = h.store.subscribers.length
  slots : g.slots = h.slots
  held : g.isHeld = h.isHeld
  pinned : g.isPinned = h.isPinned

variable {h g m : Hub L V}

namespace SameBooks

theorem refl (h : Hub L V) : SameBooks h h := ⟨rfl, rfl, rfl, rfl, rfl, rfl, rfl⟩

theorem isOpen (b : SameBooks h g) : g.isOpen = h.isOpen := by
  simp [Hub.isOpen, b.held, b.pinned]

theorem latest (b : SameBooks h g) (tag : String) : g.store.latest tag = h.store.latest tag :=
  latest_eq_of_issued b.issued tag

theorem issue (b : SameBooks h g) (tag : String) : SameBooks (h.issue tag) (g.issue tag) where
  entries := b.entries
  issued := by simp [Hub.issue, Store.issue, b.latest, b.issued]
  listeners := b.listeners
  places := b.places
  slots := b.slots
  held := b.held
  pinned := b.pinned

theorem land (b : SameBooks h g) (n : Notice V) : SameBooks (h.land n) (g.land n) where
  entries := by simp [Hub.land, Store.land, b.entries]
  issued := b.issued
  listeners := b.listeners
  places := b.places
  slots := b.slots
  held := b.held
  pinned := b.pinned

theorem subscribe (b : SameBooks h g) (name : String) (l : L) :
    SameBooks (h.subscribe name l) (g.subscribe name l) where
  entries := b.entries
  issued := b.issued
  listeners := by simp [Hub.subscribe, Store.subscribe, b.listeners, b.places]
  places := by simp [Hub.subscribe, Store.subscribe, b.places]
  slots := b.slots
  held := b.held
  pinned := b.pinned

/-- An open store heeds the end of a subscription, whatever is on its way. -/
theorem detach (b : SameBooks h g) (ho : h.isOpen = true) (i : Nat) :
    SameBooks (h.detach i) (g.detach i) := by
  have hh : h.detach i = { h with store := h.store.detach i } := by
    simp [Hub.detach, isAlive, ho]
  have hg : g.detach i = { g with store := g.store.detach i } := by
    simp [Hub.detach, isAlive, b.isOpen, ho]
  rw [hh, hg]
  exact ⟨b.entries, b.issued, by simp [Store.detach, b.listeners], b.places, b.slots, b.held,
    b.pinned⟩

theorem vacate (b : SameBooks h g) (ho : h.isOpen = true) (slot : String) :
    SameBooks (h.vacate slot).1 (g.vacate slot).1 := by
  unfold Hub.vacate
  rw [b.slots]
  cases h.slots.lookup slot with
  | none => exact b
  | some i =>
    have d := b.detach ho i
    exact ⟨d.entries, d.issued, d.listeners, d.places, rfl, d.held, d.pinned⟩

theorem fill (b : SameBooks h g) (ho : h.isOpen = true) (slot : String) (l : L) :
    SameBooks (h.fill slot l) (g.fill slot l) := by
  have v := (b.subscribe slot l).vacate ho slot
  refine ⟨v.entries, v.issued, v.listeners, v.places, ?_, v.held, v.pinned⟩
  simp only [Hub.fill]
  rw [v.slots, b.places]

theorem serve (b : SameBooks h g) (ho : h.isOpen = true) (r : Request L V) :
    SameBooks (h.serve r).1 (g.serve r).1 := by
  cases r with
  | subscribe slot l => exact b.fill ho slot l
  | unsubscribe slot => exact b.vacate ho slot
  | discard slot => exact b.vacate ho slot
  | issue tag => exact b.issue tag
  | write tag o =>
    simp only [Hub.serve, Hub.write]
    rw [b.latest]
    exact (b.issue tag).land _
  | writeAt tag k o =>
    simp only [Hub.serve, writeAt?]
    rw [b.latest]
    by_cases hk : k = h.store.latest tag
    · simpa [hk] using b.land ⟨tag, h.store.latest tag, o⟩
    · simpa [hk] using b
  | release => exact ⟨b.entries, b.issued, b.listeners, b.places, b.slots, rfl, b.pinned⟩
  | _ => exact b

/-- Who asks and what was noted make no difference to the books. -/
theorem note (b : SameBooks h g) (x y : Event L V) : SameBooks (h.note x) (g.note y) :=
  ⟨b.entries, b.issued, b.listeners, b.places, b.slots, b.held, b.pinned⟩

theorem perform (b : SameBooks h g) (ho : h.isOpen = true) (i j : Option Nat) (r : Request L V) :
    SameBooks (h.perform i r).1 (g.perform j r).1 := by
  have hg : g.isOpen = true := b.isOpen.trans ho
  simp only [Hub.perform, ho, hg, Bool.not_true, Bool.and_false, Bool.false_eq_true, if_false]
  exact (b.serve ho r).note _ _

/-- What a listener hears and learns is not in the books. -/
theorem alter (b : SameBooks h g) (i : Nat) (f : L → L) : SameBooks h (g.alter i f) :=
  ⟨b.entries, b.issued, b.listeners, by simp [Hub.alter, Store.alter, b.places], b.slots, b.held,
    b.pinned⟩

theorem step [Listener L V] {x : Beat L V} (b : SameBooks h m) (s : Step m x g) :
    SameBooks h g := by
  cases s with
  | call hr =>
    rename_i n i waiting
    have a := b.alter i (Listener.hear · n)
    exact ⟨a.entries, a.issued, a.listeners, a.places, a.slots, a.held, a.pinned⟩
  | _ => exact ⟨b.entries, b.issued, b.listeners, b.places, b.slots, b.held, b.pinned⟩

end SameBooks

/-! ## What requests leave alone -/

theorem detach_eq (h : Hub L V) (i : Nat) : ∃ s, h.detach i = { h with store := s } := by
  unfold detach
  split
  · exact ⟨_, rfl⟩
  · exact ⟨h.store, rfl⟩

theorem vacate_eq (h : Hub L V) (slot : String) :
    ∃ s q, (h.vacate slot).1 = { h with store := s, slots := q } := by
  unfold vacate
  split
  · rename_i i _
    obtain ⟨s, hs⟩ := detach_eq h i
    exact ⟨s, Keyed.remove slot h.slots, by rw [hs]⟩
  · exact ⟨h.store, h.slots, rfl⟩

theorem serve_eq (h : Hub L V) (r : Request L V) :
    ∃ s q b l, (h.serve r).1 = { h with store := s, slots := q, isHeld := b, log := l } ∧
      (b = true → h.isHeld = true) := by
  cases r with
  | subscribe slot l =>
    obtain ⟨s, q, hv⟩ := vacate_eq (h.subscribe slot l) slot
    exact ⟨s, Keyed.put slot h.store.subscribers.length q, h.isHeld, h.log,
      by simp only [serve, fill]; rw [hv]; rfl, id⟩
  | unsubscribe slot =>
    obtain ⟨s, q, hv⟩ := vacate_eq h slot
    exact ⟨s, q, h.isHeld, h.log, hv, id⟩
  | discard slot =>
    obtain ⟨s, q, hv⟩ := vacate_eq h slot
    exact ⟨s, q, h.isHeld, h.log, hv, id⟩
  | writeAt tag k o =>
    simp only [serve]
    split
    · rename_i g e
      rw [(eq_land_of_writeAt? e).2]
      exact ⟨_, h.slots, h.isHeld, _, rfl, id⟩
    · exact ⟨h.store, h.slots, h.isHeld, h.log, rfl, id⟩
  | release => exact ⟨h.store, h.slots, false, h.log, rfl, by simp⟩
  | _ => exact ⟨_, h.slots, h.isHeld, _, rfl, id⟩

/-- Nothing opens a store again. -/
theorem isOpen_of_perform (asker : Option Nat) {r : Request L V}
    (ho : (h.perform asker r).1.isOpen = true) : h.isOpen = true := by
  obtain ⟨g, a, e, hg⟩ := perform_fst h asker r
  rw [e] at ho
  rcases hg with rfl | rfl
  · exact ho
  · obtain ⟨s, q, b, l, hs, hb⟩ := serve_eq h r
    rw [hs] at ho
    simp only [isOpen, note, Bool.or_eq_true] at ho ⊢
    exact ho.imp_left hb

theorem fault_perform (h : Hub L V) (asker : Option Nat) (r : Request L V) :
    (h.perform asker r).1.fault = h.fault := by
  obtain ⟨g, a, e, hg⟩ := perform_fst h asker r
  rw [e]
  rcases hg with rfl | rfl
  · rfl
  · obtain ⟨s, q, b, l, hs, -⟩ := serve_eq h r
    rw [hs]
    rfl

/-- The numbers issued for a tag are as many as the requests that ask for one. -/
theorem latest_carryOut (rs : List (Request L V)) (ho : (h.carryOut rs).isOpen = true)
    (tag : String) :
    (h.carryOut rs).store.latest tag
      = h.store.latest tag + rs.countP (fun r => r.issued? = some tag) := by
  induction rs using List.reverseRecOn with
  | nil => rfl
  | append_singleton rs r ih =>
    rw [carryOut_append] at ho ⊢
    have hm : (h.carryOut rs).isOpen = true := isOpen_of_perform none ho
    have hp : ((h.carryOut rs).carryOut [r]).store.latest tag
        = (h.carryOut rs).store.latest tag + if r.issued? = some tag then 1 else 0 :=
      latest_perform hm none r tag
    rw [hp, ih hm, List.countP_append, List.countP_singleton]
    simp only [decide_eq_true_eq]
    omega

/-! ## Turns and landings -/

theorem turn_deed {p : Permit L} (d : Deed p h g) : g.turn = h.turn := by
  cases d with
  | land hn => exact Ordered.turn_land h _
  | aside hs hl hh => simp [turn, line, hs, hl]
  | _ => rfl

theorem turn_deeds {p : Permit L} (d : Deeds p h g) : g.turn = h.turn := by
  induction d with
  | refl => rfl
  | tail _ d ih => exact (turn_deed d).trans ih

/-- When all is quiet the way of every write is over. -/
theorem turn_of_isIdle (hq : h.store.isIdle = true) : h.turn = h.landed.length := by
  simp only [Store.isIdle, Bool.and_eq_true, Option.isNone_iff_eq_none, List.isEmpty_iff] at hq
  simp [turn, line, hq.1, hq.2]

theorem landed_deed {p : Permit L} (d : Deed p h g) : h.landed <+: g.landed := by
  cases d with
  | land hn => exact ⟨_, (landed_land h _).symm⟩
  | aside hs hl hh => exact hl ▸ List.prefix_rfl
  | _ => exact List.prefix_rfl

theorem landed_deeds {p : Permit L} (d : Deeds p h g) : h.landed <+: g.landed := by
  induction d with
  | refl => exact List.prefix_rfl
  | tail _ d ih => exact ih.trans (landed_deed d)

/-! ## Along a course -/

variable [Listener L V]

theorem isOpen_step {b : Beat L V} (s : Step h b g) : g.isOpen = h.isOpen := by
  cases s <;> rfl

theorem requests_step {b : Beat L V} (s : Step h b g) : requests [b] = [] := by
  cases s <;> rfl

/-- The books are what the requests made of them, however far the notices have got and whoever
failed. -/
theorem sameBooks_course {bs : List (Beat L V)} (c : Course h bs g) (ho : g.isOpen = true) :
    SameBooks (h.carryOut (requests bs)) g := by
  induction c with
  | rest => exact .refl h
  | @ask m bs c asker r ih =>
    have hm : m.isOpen = true := isOpen_of_perform none (h := { m with fault := none }) ho
    have b := ih hm
    have bm : SameBooks (h.carryOut (requests bs)) { m with fault := none } :=
      ⟨b.entries, b.issued, b.listeners, b.places, b.slots, b.held, b.pinned⟩
    rw [requests_append, carryOut_append]
    exact bm.perform (b.isOpen.symm.trans hm) none asker r
  | @step m g bs c e ih =>
    rw [requests_append, carryOut_append]
    rcases step?_cases e with s | ⟨i, l, r, -, hb, rfl⟩
    · rw [requests_step s]
      exact (ih ((isOpen_step s).symm.trans ho)).step s
    · have hm : m.isOpen = true := isOpen_of_perform (some i) ho
      have b := ih hm
      rw [hb]
      exact (b.perform (b.isOpen.symm.trans hm) none (some i) r).alter i _

/-- Turns never go back: a round that ends makes way for the next notice, and a failure for writes
that are still to land. -/
theorem turn_step_le {b : Beat L V} (s : Step h b g) : h.turn ≤ g.turn := by
  cases s with
  | start hr hp => exact Nat.le_of_eq (Ordered.turn_start hr hp).symm
  | close hr =>
    have hline : (h.setRound none).line.length ≤ h.line.length := by
      simp [line, setRound, hr]
    exact Nat.sub_le_sub_left hline _
  | call hr => exact Nat.le_of_eq (Ordered.turn_call hr).symm
  | @pass n i waiting hr =>
    have hline : (h.setRound (some ⟨n, none, waiting⟩)).line.length ≤ h.line.length := by
      simp [line, setRound, hr]
    exact Nat.sub_le_sub_left hline _
  | fail message hr => exact Nat.sub_le _ _

/-- A call tells of the write whose turn it is. -/
theorem eq_turn_of_step {b : Beat L V} (s : Step h b g) {i k : Nat} (hk : k ∈ numbers i [b]) :
    k = h.turn := by
  cases s with
  | @call n j waiting hr =>
    rw [numbers_called] at hk
    split at hk
    · exact List.mem_singleton.1 hk
    · cases hk
  | _ => cases hk

/-- From here on calls tell of nothing whose turn is over. -/
theorem turn_le_course {bs : List (Beat L V)} (c : Course h bs g) :
    h.turn ≤ g.turn ∧ ∀ i, ∀ k ∈ numbers i bs, h.turn ≤ k := by
  induction c using Course.deeds_induction with
  | rest => exact ⟨Nat.le_refl _, by simp⟩
  | asked asker r c d ih =>
    exact ⟨Nat.le_trans ih.1 (Nat.le_of_eq (turn_deeds d).symm), by simpa using ih.2⟩
  | step c s ih =>
    refine ⟨Nat.le_trans ih.1 (turn_step_le s), fun i k hk => ?_⟩
    rw [numbers_append, List.mem_append] at hk
    rcases hk with hk | hk
    · exact ih.2 i k hk
    · exact eq_turn_of_step s hk ▸ ih.1

theorem landed_step {b : Beat L V} (s : Step h b g) : g.landed = h.landed := by
  cases s <;> rfl

theorem landed_course {bs : List (Beat L V)} (c : Course h bs g) : h.landed <+: g.landed := by
  induction c using Course.deeds_induction with
  | rest => exact List.prefix_rfl
  | asked asker r c d ih => exact ih.trans (landed_deeds d)
  | step c s ih =>
    rw [landed_step s]
    exact ih

/-- What a listener hears along a course is what its calls tell of. -/
theorem heard_course {told : Nat → List Nat} {bs : List (Beat L V)} (c : Course h bs g)
    (o : Ordered h told) (i : Nat) :
    (g.heard i).map some = (h.heard i).map some ++ (numbers i bs).map (g.landed[·]?) := by
  have hold : (told i).map (g.landed[·]?) = (told i).map (h.landed[·]?) := by
    apply List.map_congr_left
    intro k hk
    obtain ⟨later, hl⟩ := landed_course c
    rw [← hl, List.getElem?_append_left (o.lt_length hk)]
  rw [(ordered_course c o).heard i, List.map_append, hold, o.heard i]

/-- Without a failure, a listener that is registered at both ends of a course is called exactly once
for each write that lands and whose way is over by then. -/
theorem called_once {told : Nat → List Nat} {bs : List (Beat L V)} (c : Course h bs g)
    (o : Ordered h told) (sound : ∀ b ∈ bs, b.isFailed = false) {i : Nat}
    (hi : i ∈ h.store.listeners) (hg : i ∈ g.store.listeners) {k : Nat}
    (hk : h.landed.length ≤ k) (hkg : k < g.turn) : (numbers i bs).count k = 1 := by
  have all := caughtUp_since c o sound hi hg
  have hup : g.turn ≤ g.upTo i := turn_le_upTo g i
  have hfirst : h.upTo i ≤ k := Nat.le_trans (o.upTo_le i) hk
  have hmem : k ∈ List.range' (h.upTo i) (g.upTo i - h.upTo i) :=
    List.mem_range'_1.2 ⟨hfirst, by omega⟩
  rw [all.2, List.Nodup.count List.nodup_range', if_pos hmem]

/-! ## Failures -/

theorem eq_abandon_of_isFailed (e : h.step? = some g) (hf : h.beat.isFailed = true) :
    ∃ i message, g = h.abandon i message := by
  rcases step?_cases e with s | ⟨i, l, r, -, hb, -⟩
  · cases hb : h.beat with
    | failed j =>
      rw [hb] at s
      cases s with
      | fail message hr => exact ⟨j, message, rfl⟩
    | _ =>
      rw [hb] at hf
      cases hf
  · rw [hb] at hf
    cases hf

theorem fault_beat (e : h.step? = some g) (hf : h.beat.isFailed = false) : g.fault = h.fault := by
  rcases step?_cases e with s | ⟨i, l, r, -, -, rfl⟩
  · cases hb : h.beat with
    | failed j =>
      rw [hb] at hf
      cases hf
    | _ =>
      rw [hb] at s
      cases s <;> rfl
  · exact fault_perform h (some i) r

/-- If it comes to rest with a fault, the last step on the way was a failure. -/
theorem failure_of_settle [Bounded L V] (h : Hub L V) (h₀ : h.fault = none) {message : String}
    (hm : h.settle.fault = some message) :
    ∃ bs m, Course h bs m ∧ m.step? = some h.settle ∧ m.beat.isFailed = true := by
  fun_induction settle h with
  | case1 h e => simp [h₀] at hm
  | case2 h g e ih =>
    cases hf : h.beat.isFailed with
    | false =>
      obtain ⟨bs, m, c, hs, hb⟩ := ih ((fault_beat e hf).trans h₀) hm
      exact ⟨_, m, ((Course.rest h).step e).trans c, hs, hb⟩
    | true =>
      have hg : g.step? = none := by
        obtain ⟨i, text, rfl⟩ := eq_abandon_of_isFailed e hf
        rfl
      refine ⟨[], h, .rest h, ?_, hf⟩
      rw [e]
      unfold settle
      split
      · rfl
      · simp_all

/-- A drive that ends early ends with a failure, met on a course that starts with what was asked. -/
theorem failure_of_drive [Bounded L V] {r : Request L V} {message : String}
    (hd : h.drive (.ask r) = (g, .error message)) :
    ∃ bs m, Course h ([.asked none r] ++ bs) m ∧ m.step? = some g ∧ m.beat.isFailed = true := by
  have h₀ : (Hub.perform { h with fault := none } none r).1.fault = none := fault_perform _ none r
  unfold drive at hd
  simp only at hd
  split at hd
  · rename_i text hm
    obtain ⟨rfl, -⟩ := Prod.mk.inj hd
    obtain ⟨bs, m, c, hs, hf⟩ := failure_of_settle _ h₀ hm
    exact ⟨bs, m, ((Course.rest h).ask none r).trans c, hs, hf⟩
  · cases (Prod.mk.inj hd).2

/-! ## After a failure -/

/-- How a hub stands after a failure, and what becomes of it: `bs` are the beats up to the failure,
`m` the hub that it met and `g` what it left. -/
structure Recovered (p : Bool) (bs : List (Beat L V)) (m g : Hub L V) : Prop where
  /-- Nothing is on its way and nothing waits. -/
  round : g.store.round = none
  pending : g.store.pending = []
  /-- What is kept under a tag is what landed there last, before the failure. -/
  landed : g.landed = m.landed
  read : ∀ tag, g.store.read tag = (lastUnder tag m.landed).map (·.entry)
  /-- As long as the store can be asked, its books are what the requests before the failure make of
  an empty store that tells nobody: who is registered, who is in which slot, which numbers are out.
  -/
  books : g.isOpen = true →
    SameBooks (({ isPinned := p } : Hub L V).carryOut (requests bs)) g ∧
    ∀ tag, g.store.latest tag = (requests bs).countP (fun r => r.issued? = some tag)
  /-- No listener is ever told of a write that landed before the failure. -/
  dropped : ∀ {cs : List (Beat L V)} {e : Hub L V}, Course g cs e → ∀ i,
    (e.heard i).map some = (m.heard i).map some ++ (numbers i cs).map (e.landed[·]?) ∧
    ∀ k ∈ numbers i cs, m.landed.length ≤ k
  /-- A write that lands later and goes its way without a failure is told exactly once to whoever
  is registered before it lands and still when its way is over. -/
  next : ∀ {cs ds : List (Beat L V)} {e f : Hub L V}, Course g cs e → Course e ds f →
    (∀ b ∈ ds, b.isFailed = false) → ∀ i ∈ e.store.listeners, i ∈ f.store.listeners →
    ∀ k, e.landed.length ≤ k → k < f.turn → (numbers i ds).count k = 1

theorem recovered_of_failure {p : Bool} {m g : Hub L V} {bs : List (Beat L V)}
    (hb : Course { isPinned := p } bs m) (hs : m.step? = some g) (hf : m.beat.isFailed = true) :
    Recovered p bs m g := by
  have hc : Course { isPinned := p } (bs ++ [m.beat]) g := hb.step hs
  have om : Ordered m fun i => numbers i bs := by simpa using ordered_course hb (ordered_empty p)
  have og : Ordered g fun i => numbers i (bs ++ [m.beat]) := by
    simpa using ordered_course hc (ordered_empty p)
  obtain ⟨i, message, rfl⟩ := eq_abandon_of_isFailed hs hf
  have quiet : (m.abandon i message).turn = m.landed.length := turn_of_isIdle rfl
  refine ⟨rfl, rfl, rfl, og.read, fun ho => ?_, fun c j => ⟨?_, ?_⟩, ?_⟩
  · have books := sameBooks_course hb ho
    refine ⟨⟨books.entries, books.issued, books.listeners, books.places, books.slots, books.held,
      books.pinned⟩, fun tag => ?_⟩
    have hl : (m.abandon i message).store.latest tag = _ := books.latest tag
    rw [hl, latest_carryOut _ (books.isOpen.symm.trans ho)]
    simp [Store.latest]
  · exact heard_course c og j
  · intro k hk
    rw [← quiet]
    exact (turn_le_course c).2 j k hk
  · intro cs ds e f c d sound j hj hjf k hk hkf
    exact called_once d (ordered_course c og) sound hj hjf hk hkf

/-- Wherever on its course a hub meets a failure, it recovers from it; and whenever something that
is asked of it from outside ends with the message of a failure, it has met one on its way, which was
the last thing that happened. -/
theorem recovers_from_failure {p : Bool} {as : List (Beat L V)}
    (c : Course { isPinned := p } as h) :
    (∀ {bs : List (Beat L V)} {m g : Hub L V}, Course h bs m → m.step? = some g →
      m.beat.isFailed = true → Recovered p (as ++ bs) m g) ∧
    ∀ [Bounded L V] {r : Request L V} {message : String} {g : Hub L V},
      h.drive (.ask r) = (g, .error message) →
      ∃ bs m, Course h ([.asked none r] ++ bs) m ∧ m.step? = some g ∧ m.beat.isFailed = true ∧
        Recovered p (as ++ ([.asked none r] ++ bs)) m g := by
  have met {bs : List (Beat L V)} {m g : Hub L V} (cb : Course h bs m) (hs : m.step? = some g)
      (hf : m.beat.isFailed = true) : Recovered p (as ++ bs) m g :=
    recovered_of_failure (c.trans cb) hs hf
  refine ⟨met, fun hd => ?_⟩
  obtain ⟨bs, m, cb, hs, hf⟩ := failure_of_drive hd
  exact ⟨bs, m, cb, hs, hf, met cb hs hf⟩

/-! ## A listener that fails after it wrote -/

/-- Answers the value one with a write, and fails then. -/
def quitter : Script Nat :=
  .ofRules [⟨{ tag := some "t", value := some 1 }, 1,
    [.ask (.write "t" (.success 2)), .fail "no more"]⟩]

/-- The quitter, and a listener behind it that only hears. -/
def house : Hub (Script Nat) Nat :=
  (Hub.perform { (Hub.perform {} none (.subscribe "a" quitter)).1 with fault := none } none
    (.subscribe "b" (.ofRules []))).1

def writing (h : Hub (Script Nat) Nat) (v : Nat) : Hub (Script Nat) Nat :=
  (Hub.perform { h with fault := none } none (.write "t" (.success v))).1

/-- The hub that the failure meets, what it leaves, and the same after one more write. -/
def failing : Hub (Script Nat) Nat := advance 3 (writing house 1)

def abandoned : Hub (Script Nat) Nat := advance 1 failing

def resumed : Hub (Script Nat) Nat := advance 20 (writing abandoned 3)

example : resumed.heard 1 = [⟨"t", 3, .success 3⟩] := by decide

theorem course_failing : Course {} ([.asked none (.subscribe "a" quitter),
    .asked none (.subscribe "b" (.ofRules [])), .asked none (.write "t" (.success 1))]
      ++ beats 3 (writing house 1)) failing :=
  ((((Course.rest {}).ask none (.subscribe "a" quitter)).ask none
    (.subscribe "b" (.ofRules []))).ask none (.write "t" (.success 1))).trans
      (course_advance 3 (writing house 1))

theorem course_resumed : Course abandoned
    ([.asked none (.write "t" (.success 3))] ++ beats 20 (writing abandoned 3)) resumed :=
  ((Course.rest abandoned).ask none (.write "t" (.success 3))).trans
    (course_advance 20 (writing abandoned 3))

/-- The write of the quitter is kept but nobody is told of it; the listener behind is told once of
the write that comes next. -/
theorem recovery_behind_quitter :
    abandoned.store.read "t" = some ⟨2, .success 2⟩ ∧
    (∀ k ∈ numbers 1 ([.asked none (.write "t" (.success 3))] ++ beats 20 (writing abandoned 3)),
      2 ≤ k) ∧
    (numbers 1 ([.asked none (.write "t" (.success 3))]
      ++ beats 20 (writing abandoned 3))).count 2 = 1 := by
  have r : Recovered false _ failing abandoned :=
    (recovers_from_failure (p := false) (.rest _)).1 course_failing rfl (by decide)
  have last : lastUnder "t" failing.landed = some ⟨"t", 2, .success 2⟩ := by decide
  refine ⟨by rw [r.read, last]; rfl, (r.dropped course_resumed 1).2, ?_⟩
  exact r.next (.rest abandoned) course_resumed (by decide) 1 (by decide) (by decide) 2
    (by decide) (by decide)

end Hub
end SchemaBoard
