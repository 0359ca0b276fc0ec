import SchemaBoard.Proofs.Store.Course
import SchemaBoard.Store.Script

/-!
# Delivery of notices

Every listener is told of writes in the order in which they land, and of none twice. Between two
moments at which a listener is registered it misses no write that lands, so once all is quiet the
entry that it saw last under a tag is the one that is kept there. The invariant behind it: the calls
of a listener carry increasing numbers, all of them below the first one that it may still be told
of. Main statement: `delivery_in_order_and_lossless`.
-/
namespace SchemaBoard

variable {L V : Type}

/-- What comes last under a tag in the rest of a list comes last in all of it. -/
theorem lastUnder_of_drop {tag : String} {ns : List (Notice V)} {k : Nat} {n : Notice V}
    (h : lastUnder tag (ns.drop k) = some n) : lastUnder tag ns = some n := by
  have hs : ns.take k ++ ns.drop k = ns := List.take_append_drop k ns
  unfold lastUnder at h ⊢
  rw [← hs, List.filter_append, List.getLast?_append, h]
  rfl

namespace Hub

theorem deeds_request (h : Hub L V) (asker : Option Nat) (r : Request L V) :
    Deeds {} h (h.perform asker r).1 :=
  deeds_perform {} h asker (by cases r <;> trivial) fun _ _ => trivial

/-- What is asked from outside is asked of a hub that has no fault any more. -/
theorem deeds_asked (h : Hub L V) (asker : Option Nat) (r : Request L V) :
    Deeds {} h (Hub.perform { h with fault := none } asker r).1 := by
  have aside : Deed {} h { h with fault := none } := .aside rfl rfl rfl rfl
  exact (Relation.ReflTransGen.single aside).trans (deeds_request _ asker r)

theorem deeds_consult_all [Listener L V] (h : Hub L V) (i : Nat) (r : Request L V) :
    Deeds {} h (h.consult i r) :=
  (deeds_request h (some i) r).tail (.alter _ i trivial)

/-- Induction along a course: what is asked, by whomever, comes to deeds, and every other beat is a
step in which nothing is asked. -/
@[elab_as_elim]
theorem Course.deeds_induction [Listener L V] {h : Hub L V}
    {motive : ∀ bs g, Course h bs g → Prop} (rest : motive [] h (.rest h))
    (asked : ∀ {bs m g} asker r {c' : Course h (bs ++ [.asked asker r]) g}
      (c : Course h bs m), Deeds {} m g → motive bs m c → motive (bs ++ [.asked asker r]) g c')
    (step : ∀ {bs m g b} {c' : Course h (bs ++ [b]) g} (c : Course h bs m),
      Step m b g → motive bs m c → motive (bs ++ [b]) g c')
    {bs : List (Beat L V)} {g : Hub L V} (c : Course h bs g) : motive bs g c := by
  induction c with
  | rest => exact rest
  | ask c asker r ih => exact asked asker r c (deeds_asked _ asker r) ih
  | @step m g bs c e ih =>
    rcases step?_cases e with s | ⟨i, l, r, -, hb, rfl⟩
    · exact step c s ih
    · have c' : Course h (bs ++ [m.beat]) (m.consult i r) := c.step e
      rw [hb] at c'
      have hm : motive (bs ++ [.asked (some i) r]) (m.consult i r) c' :=
        asked (some i) r c (deeds_consult_all m i r) ih
      simpa only [hb] using hm

/-- The number of the first write that a listener may still be told of. -/
def upTo (h : Hub L V) (i : Nat) : Nat :=
  match h.store.round with
  | some r => if i ∈ r.waiting then h.turn else h.turn + 1
  | none => h.turn

theorem turn_le_upTo (h : Hub L V) (i : Nat) : h.turn ≤ h.upTo i := by
  unfold upTo
  split
  · split <;> omega
  · exact Nat.le_refl _

/-- A hub and the numbers of the writes that each of its listeners has been told of. -/
structure Ordered (h : Hub L V) (told : Nat → List Nat) : Prop where
  suffix : h.line <:+ h.landed
  distinct : h.store.listeners.Nodup
  known : ∀ i ∈ h.store.listeners, i < h.store.subscribers.length
  waiting : ∀ r, h.store.round = some r →
    r.waiting.Nodup ∧ ∀ i ∈ r.waiting, i < h.store.subscribers.length
  stranger : ∀ i, h.store.subscribers.length ≤ i → told i = []
  increasing : ∀ i, (told i).Pairwise (· < ·)
  bound : ∀ i, ∀ k ∈ told i, k < h.upTo i
  heard : ∀ i, (h.heard i).map some = (told i).map (h.landed[·]?)
  read : ∀ tag, h.store.read tag = (lastUnder tag h.landed).map (·.entry)

variable {h g : Hub L V} {told : Nat → List Nat}

theorem ordered_empty (p : Bool) : Ordered ({ isPinned := p } : Hub L V) fun _ => [] where
  suffix := List.nil_suffix
  distinct := List.nodup_nil
  known := by simp
  waiting := by simp
  stranger := by simp
  increasing := by simp
  bound := by simp
  heard := by simp [heard]
  read := by simp [Store.read, landed, lastUnder]

namespace Ordered

theorem line_le (o : Ordered h told) : h.line.length ≤ h.landed.length := o.suffix.length_le

theorem upTo_le (o : Ordered h told) (i : Nat) : h.upTo i ≤ h.landed.length := by
  have hl := o.line_le
  unfold upTo turn
  cases hr : h.store.round with
  | none => simp only; omega
  | some r =>
    have hpos : 0 < h.line.length := by simp [line, hr]
    simp only
    split <;> omega

theorem lt_length (o : Ordered h told) {i k : Nat} (hk : k ∈ told i) : k < h.landed.length :=
  Nat.lt_of_lt_of_le (o.bound i k hk) (o.upTo_le i)

/-- The write that goes its way is the one of the notice. -/
theorem landed_turn (o : Ordered h told) {n : Notice V} {rest : List (Notice V)}
    (hl : h.line = n :: rest) : h.landed[h.turn]? = some n := by
  obtain ⟨past, hp⟩ := o.suffix
  have ht : h.turn = past.length := by
    unfold turn
    rw [← hp, List.length_append]
    omega
  rw [ht, ← hp, hl]
  simp

/-! ## What deeds keep -/

theorem turn_land (h : Hub L V) (n : Notice V) : (h.land n).turn = h.turn := by
  unfold turn
  simp

theorem upTo_land (h : Hub L V) (n : Notice V) (i : Nat) : (h.land n).upTo i = h.upTo i := by
  have hr : (h.land n).store.round = h.store.round := rfl
  unfold upTo
  rw [hr, turn_land]

theorem land (o : Ordered h told) (n : Notice V) : Ordered (h.land n) told where
  suffix := by
    obtain ⟨past, hp⟩ := o.suffix
    exact ⟨past, by simp [← hp]⟩
  distinct := o.distinct
  known := o.known
  waiting := o.waiting
  stranger := o.stranger
  increasing := o.increasing
  bound i k hk := by
    rw [upTo_land]
    exact o.bound i k hk
  heard i := by
    rw [heard_land, o.heard i]
    apply List.map_congr_left
    intro k hk
    rw [landed_land, List.getElem?_append_left (o.lt_length hk)]
  read tag := by
    by_cases ht : n.tag = tag
    · subst ht
      rw [landed_land, lastUnder_append_self]
      exact Store.read_land h.store n
    · have hs : (h.land n).store.read tag = h.store.read tag :=
        Store.read_land_of_ne h.store n (Ne.symm ht)
      rw [hs, o.read tag, landed_land, lastUnder_append_of_ne _ ht]

theorem subscribe (o : Ordered h told) (name : String) (l : L) :
    Ordered (h.subscribe name l) told where
  suffix := o.suffix
  distinct := by
    have hnew : h.store.subscribers.length ∉ h.store.listeners := by
      intro hm
      have := o.known _ hm
      omega
    have hd : (h.store.listeners ++ [h.store.subscribers.length]).Nodup := by
      rw [List.nodup_append]
      refine ⟨o.distinct, by simp, ?_⟩
      intro a ha b hb he
      rw [List.mem_singleton.1 hb] at he
      exact hnew (he ▸ ha)
    exact hd
  known i hi := by
    have hlen : (h.subscribe name l).store.subscribers.length = h.store.subscribers.length + 1 := by
      simp [Hub.subscribe, Store.subscribe]
    rcases List.mem_append.1 hi with hi | hi
    · have := o.known i hi
      omega
    · have : i = h.store.subscribers.length := by simpa using hi
      omega
  waiting r hr := by
    have hlen : (h.subscribe name l).store.subscribers.length = h.store.subscribers.length + 1 := by
      simp [Hub.subscribe, Store.subscribe]
    obtain ⟨hd, hk⟩ := o.waiting r hr
    refine ⟨hd, ?_⟩
    intro i hi
    have := hk i hi
    omega
  stranger i hi := by
    have hlen : (h.subscribe name l).store.subscribers.length = h.store.subscribers.length + 1 := by
      simp [Hub.subscribe, Store.subscribe]
    exact o.stranger i (by omega)
  increasing := o.increasing
  bound := o.bound
  heard := o.heard
  read := o.read

theorem detach (o : Ordered h told) (i : Nat) :
    Ordered { h with store := h.store.detach i } told where
  suffix := o.suffix
  distinct := o.distinct.filter _
  known j hj := o.known j (List.mem_filter.1 hj).1
  waiting := o.waiting
  stranger := o.stranger
  increasing := o.increasing
  bound := o.bound
  heard := o.heard
  read := o.read

theorem issue (o : Ordered h told) (tag : String) : Ordered (h.issue tag) told :=
  ⟨o.suffix, o.distinct, o.known, o.waiting, o.stranger, o.increasing, o.bound, o.heard, o.read⟩

theorem aside (o : Ordered h told) (hs : g.store = h.store) (hl : g.landed = h.landed)
    (hh : g.heard = h.heard) : Ordered g told := by
  have hline : g.line = h.line := by simp [line, hs]
  have hturn : g.turn = h.turn := by simp [turn, hl, hline]
  have hup : g.upTo = h.upTo := by
    funext i
    simp [upTo, hs, hturn]
  constructor
  · rw [hline, hl]
    exact o.suffix
  · rw [hs]
    exact o.distinct
  · rw [hs]
    exact o.known
  · rw [hs]
    exact o.waiting
  · rw [hs]
    exact o.stranger
  · exact o.increasing
  · rw [hup]
    exact o.bound
  · rw [hh, hl]
    exact o.heard
  · rw [hs, hl]
    exact o.read

theorem alter (o : Ordered h told) (i : Nat) (f : L → L) : Ordered (h.alter i f) told := by
  have hlen : (h.alter i f).store.subscribers.length = h.store.subscribers.length := by
    simp [Hub.alter, Store.alter]
  refine ⟨o.suffix, o.distinct, ?_, ?_, ?_, o.increasing, o.bound, o.heard, o.read⟩
  · rw [hlen]
    exact o.known
  · rw [hlen]
    exact o.waiting
  · rw [hlen]
    exact o.stranger

theorem deed {p : Permit L} (d : Deed p h g) (o : Ordered h told) : Ordered g told := by
  cases d with
  | subscribe name hl => exact o.subscribe name _
  | detach hi => exact o.detach _
  | issue tag => exact o.issue tag
  | land hn => exact o.land _
  | alter i hf => exact o.alter i _
  | aside hs hl hh => exact o.aside hs hl hh

theorem deeds {p : Permit L} (d : Deeds p h g) (o : Ordered h told) : Ordered g told :=
  d.keep (fun _ _ d o => deed d o) o

/-! ## What steps keep -/

theorem line_start {n : Notice V} {others : List (Notice V)} (hr : h.store.round = none)
    (hp : h.store.pending = n :: others) : (h.start n others).line = h.line := by
  simp [line, Hub.start, hr, hp]

theorem turn_start {n : Notice V} {others : List (Notice V)} (hr : h.store.round = none)
    (hp : h.store.pending = n :: others) : (h.start n others).turn = h.turn := by
  unfold turn
  rw [line_start hr hp]
  rfl

theorem start (o : Ordered h told) {n : Notice V} {others : List (Notice V)}
    (hr : h.store.round = none) (hp : h.store.pending = n :: others) :
    Ordered (h.start n others) told where
  suffix := by
    rw [line_start hr hp]
    exact o.suffix
  distinct := o.distinct
  known := o.known
  waiting r he := by
    obtain rfl : ⟨n, none, h.store.listeners⟩ = r := Option.some.inj he
    exact ⟨o.distinct, o.known⟩
  stranger := o.stranger
  increasing := o.increasing
  bound i k hk := by
    have hk := o.bound i k hk
    have hold : h.upTo i = h.turn := by simp [upTo, hr]
    have hturn := turn_start hr hp
    have hnew := turn_le_upTo (h.start n others) i
    omega
  heard := o.heard
  read := o.read

/-- The end of a round sets every listener on to the next write. -/
theorem upTo_close (o : Ordered h told) {n : Notice V} (hr : h.store.round = some ⟨n, none, []⟩)
    (i : Nat) : (h.setRound none).upTo i = h.upTo i := by
  have hl := o.line_le
  have hline : h.line.length = (h.setRound none).line.length + 1 := by
    simp [line, setRound, hr]
  have hold : h.upTo i = h.turn + 1 := by simp [upTo, hr]
  have hnew : (h.setRound none).upTo i = (h.setRound none).turn := rfl
  have hlanded : (h.setRound none).landed = h.landed := rfl
  rw [hold, hnew]
  unfold turn
  rw [hlanded]
  omega

theorem close (o : Ordered h told) {n : Notice V} (hr : h.store.round = some ⟨n, none, []⟩) :
    Ordered (h.setRound none) told := by
  refine ⟨?_, o.distinct, o.known, ?_, o.stranger, o.increasing, ?_, o.heard, o.read⟩
  · have hline : h.line = n :: (h.setRound none).line := by simp [line, setRound, hr]
    exact (List.suffix_cons n _).trans (hline ▸ o.suffix)
  · intro r he
    cases he
  · intro i k hk
    rw [o.upTo_close hr]
    exact o.bound i k hk

theorem upTo_pass {n : Notice V} {i : Nat} {waiting : List Nat}
    (hr : h.store.round = some ⟨n, some i, waiting⟩) (j : Nat) :
    (h.setRound (some ⟨n, none, waiting⟩)).upTo j = h.upTo j := by
  have hturn : (h.setRound (some ⟨n, none, waiting⟩)).turn = h.turn := by
    simp [turn, line, setRound, hr, landed]
  have hwait : (h.setRound (some ⟨n, none, waiting⟩)).store.round = some ⟨n, none, waiting⟩ := rfl
  unfold upTo
  rw [hturn, hwait, hr]

theorem pass (o : Ordered h told) {n : Notice V} {i : Nat} {waiting : List Nat}
    (hr : h.store.round = some ⟨n, some i, waiting⟩) :
    Ordered (h.setRound (some ⟨n, none, waiting⟩)) told := by
  refine ⟨?_, o.distinct, o.known, ?_, o.stranger, o.increasing, ?_, o.heard, o.read⟩
  · have hline : (h.setRound (some ⟨n, none, waiting⟩)).line = h.line := by
      simp [line, setRound, hr]
    rw [hline]
    exact o.suffix
  · intro r he
    obtain rfl : ⟨n, none, waiting⟩ = r := Option.some.inj he
    exact o.waiting ⟨n, some i, waiting⟩ hr
  · intro j k hk
    rw [upTo_pass hr]
    exact o.bound j k hk

theorem upTo_abandon (o : Ordered h told) (i : Nat) (message : String) (j : Nat) :
    h.upTo j ≤ (h.abandon i message).upTo j :=
  o.upTo_le j

theorem abandon (o : Ordered h told) (i : Nat) (message : String) :
    Ordered (h.abandon i message) told := by
  refine ⟨List.nil_suffix, o.distinct, o.known, ?_, o.stranger, o.increasing, ?_, o.heard, o.read⟩
  · intro r he
    cases he
  · intro j k hk
    exact Nat.lt_of_lt_of_le (o.bound j k hk) (o.upTo_abandon i message j)

theorem heard_call (h : Hub L V) [Listener L V] (n : Notice V) (i : Nat) (waiting : List Nat)
    (j : Nat) :
    (h.call n i waiting).heard j = h.heard j ++ if i = j then [n] else [] := by
  have hlog : (h.call n i waiting).log = .called i n :: h.log := rfl
  unfold Hub.heard
  rw [hlog, List.filterMap_cons]
  by_cases hj : i = j <;> simp [Event.heard?, hj]

theorem turn_call [Listener L V] {n : Notice V} {i : Nat} {waiting : List Nat}
    (hr : h.store.round = some ⟨n, none, i :: waiting⟩) : (h.call n i waiting).turn = h.turn := by
  have hlanded : (h.call n i waiting).landed = h.landed := rfl
  have hline : (h.call n i waiting).line = h.line := by
    simp [line, Hub.call, note, setRound, Hub.alter, Store.alter, hr]
  unfold turn
  rw [hlanded, hline]

theorem upTo_call [Listener L V] {n : Notice V} {i : Nat} {waiting : List Nat}
    (hr : h.store.round = some ⟨n, none, i :: waiting⟩) (j : Nat) :
    (h.call n i waiting).upTo j = if j ∈ waiting then h.turn else h.turn + 1 := by
  have hround : (h.call n i waiting).store.round = some ⟨n, some i, waiting⟩ := rfl
  unfold upTo
  rw [hround, turn_call hr]

/-- Only the listener that is called gets on to the next write. -/
theorem upTo_call_of_ne [Listener L V] {n : Notice V} {i : Nat} {waiting : List Nat}
    (hr : h.store.round = some ⟨n, none, i :: waiting⟩) {j : Nat} (hj : i ≠ j) :
    (h.call n i waiting).upTo j = h.upTo j := by
  rw [upTo_call hr]
  unfold upTo
  rw [hr]
  simp [Ne.symm hj]

theorem upTo_called {n : Notice V} {i : Nat} {waiting : List Nat}
    (hr : h.store.round = some ⟨n, none, i :: waiting⟩) : h.upTo i = h.turn := by
  unfold upTo
  rw [hr]
  simp

theorem upTo_call_self [Listener L V] (o : Ordered h told) {n : Notice V} {i : Nat}
    {waiting : List Nat} (hr : h.store.round = some ⟨n, none, i :: waiting⟩) :
    (h.call n i waiting).upTo i = h.turn + 1 := by
  have hi : i ∉ waiting := (List.nodup_cons.1 (o.waiting _ hr).1).1
  rw [upTo_call hr, if_neg hi]

theorem call [Listener L V] (o : Ordered h told) {n : Notice V} {i : Nat} {waiting : List Nat}
    (hr : h.store.round = some ⟨n, none, i :: waiting⟩) :
    Ordered (h.call n i waiting) fun j => told j ++ numbers j [(.called i h.turn : Beat L V)] := by
  have hlen : (h.call n i waiting).store.subscribers.length = h.store.subscribers.length := by
    simp [Hub.call, note, setRound, Hub.alter, Store.alter]
  have hturn : h.landed[h.turn]? = some n :=
    o.landed_turn (by simp only [line, hr]; rfl)
  obtain ⟨hdistinct, hknown⟩ := o.waiting _ hr
  refine ⟨?_, o.distinct, ?_, ?_, ?_, ?_, ?_, ?_, o.read⟩
  · have hline : (h.call n i waiting).line = h.line := by
      simp [line, Hub.call, note, setRound, Hub.alter, Store.alter, hr]
    rw [hline]
    exact o.suffix
  · rw [hlen]
    exact o.known
  · intro r he
    obtain rfl : ⟨n, some i, waiting⟩ = r := Option.some.inj he
    rw [hlen]
    exact ⟨hdistinct.of_cons, fun j hj => hknown j (List.mem_cons_of_mem i hj)⟩
  · intro j hj
    rw [hlen] at hj
    have hij : i ≠ j := by
      have := hknown i (by simp)
      omega
    simp [numbers_called, hij, o.stranger j hj]
  · intro j
    by_cases hij : i = j
    · subst hij
      rw [numbers_called, if_pos rfl, List.pairwise_append]
      refine ⟨o.increasing i, by simp, ?_⟩
      intro a ha b hb
      have ha := o.bound i a ha
      rw [upTo_called hr] at ha
      rw [List.mem_singleton.1 hb]
      exact ha
    · simpa [numbers_called, hij] using o.increasing j
  · intro j k hk
    by_cases hij : i = j
    · subst hij
      rw [o.upTo_call_self hr]
      rw [numbers_called, if_pos rfl, List.mem_append, List.mem_singleton] at hk
      rcases hk with hk | rfl
      · have := o.bound i k hk
        rw [upTo_called hr] at this
        omega
      · omega
    · rw [upTo_call_of_ne hr hij]
      exact o.bound j k (by simpa [numbers_called, hij] using hk)
  · intro j
    have hlanded : (h.call n i waiting).landed = h.landed := rfl
    rw [heard_call, numbers_called, hlanded, List.map_append, List.map_append, o.heard j]
    by_cases hij : i = j <;> simp [hij, hturn]

theorem step [Listener L V] (o : Ordered h told) {b : Beat L V} (s : Step h b g) :
    Ordered g fun i => told i ++ numbers i [b] := by
  cases s with
  | start hr hp => simpa using o.start hr hp
  | close hr => simpa using o.close hr
  | call hr => exact o.call hr
  | pass hr => simpa using o.pass hr
  | fail message hr => simpa using o.abandon _ message

end Ordered

theorem ordered_course [Listener L V] {bs : List (Beat L V)} (c : Course h bs g)
    (o : Ordered h told) : Ordered g fun i => told i ++ numbers i bs := by
  induction c using Course.deeds_induction with
  | rest => simpa using o
  | asked asker r c d ih => simpa using ih.deeds d
  | step c s ih => simpa using ih.step s

/-! ## Nothing is missed -/

/-- A listener was told of every write from one number on, up to those that it may still be told of.
-/
def CaughtUp (h : Hub L V) (told : List Nat) (i first : Nat) : Prop :=
  first ≤ h.upTo i ∧ told = List.range' first (h.upTo i - first)

/-- Every registered listener has caught up from some write on. -/
def Complete (h : Hub L V) (told : Nat → List Nat) : Prop :=
  ∀ i ∈ h.store.listeners, ∃ first, CaughtUp h (told i) i first

theorem CaughtUp.congr {i first : Nat} {ns : List Nat} (hup : g.upTo i = h.upTo i)
    (k : CaughtUp h ns i first) : CaughtUp g ns i first := by
  unfold CaughtUp
  rw [hup]
  exact k

theorem upTo_deed {p : Permit L} (d : Deed p h g) (i : Nat) : g.upTo i = h.upTo i := by
  cases d with
  | land hn => exact Ordered.upTo_land h _ i
  | aside hs hl hh =>
    unfold upTo turn line
    rw [hs, hl]
  | _ => rfl

theorem upTo_deeds {p : Permit L} (d : Deeds p h g) (i : Nat) : g.upTo i = h.upTo i := by
  induction d with
  | refl => rfl
  | tail _ d ih => exact (upTo_deed d i).trans ih

theorem length_subscribers_deed {p : Permit L} (d : Deed p h g) :
    h.store.subscribers.length ≤ g.store.subscribers.length := by
  cases d with
  | subscribe name hl => simp [subscribe, Store.subscribe]
  | alter i hf => simp [alter, Store.alter]
  | aside hs hl hh => exact Nat.le_of_eq (by rw [hs])
  | _ => exact Nat.le_refl _

/-- A listener is registered before a deed unless the deed brings it. -/
theorem mem_listeners_of_deed {p : Permit L} (d : Deed p h g) {i : Nat}
    (hi : i ∈ g.store.listeners) : i ∈ h.store.listeners ∨ i = h.store.subscribers.length := by
  cases d with
  | subscribe name hl => simpa [subscribe, Store.subscribe] using hi
  | detach hd => exact .inl (List.mem_filter.1 hi).1
  | aside hs hl hh => exact .inl (hs ▸ hi)
  | _ => exact .inl hi

theorem Complete.deed {p : Permit L} (d : Deed p h g) (o : Ordered h told) (k : Complete h told) :
    Complete g told := by
  intro i hi
  rcases mem_listeners_of_deed d hi with hi | rfl
  · obtain ⟨first, hf, ht⟩ := k i hi
    exact ⟨first, by rwa [upTo_deed d], by rwa [upTo_deed d]⟩
  · refine ⟨h.upTo h.store.subscribers.length, Nat.le_of_eq (upTo_deed d _).symm, ?_⟩
    rw [upTo_deed d, o.stranger _ (Nat.le_refl _)]
    simp

theorem Complete.deeds {p : Permit L} (d : Deeds p h g) (o : Ordered h told)
    (k : Complete h told) : Complete g told :=
  (d.keep (P := fun h => Ordered h told ∧ Complete h told)
    (fun _ _ d ok => ⟨ok.1.deed d, ok.2.deed d ok.1⟩) ⟨o, k⟩).2

/-- While a listener stays registered, deeds leave it as it is. -/
theorem CaughtUp.deeds {p : Permit L} (d : Deeds p h g) {i first : Nat} {ns : List Nat}
    (k : CaughtUp h ns i first) : CaughtUp g ns i first :=
  k.congr (upTo_deeds d i)

theorem mem_listeners_of_deeds {p : Permit L} (d : Deeds p h g) {i : Nat}
    (hi : i < h.store.subscribers.length) :
    h.store.subscribers.length ≤ g.store.subscribers.length ∧
      (i ∈ g.store.listeners → i ∈ h.store.listeners) := by
  induction d with
  | refl => exact ⟨Nat.le_refl _, id⟩
  | tail _ d ih =>
    refine ⟨Nat.le_trans ih.1 (length_subscribers_deed d), fun hg => ?_⟩
    rcases mem_listeners_of_deed d hg with hm | hm
    · exact ih.2 hm
    · omega

theorem CaughtUp.start {n : Notice V} {others : List (Notice V)}
    (hr : h.store.round = none) (hp : h.store.pending = n :: others) {i first : Nat} {ns : List Nat}
    (hi : i ∈ h.store.listeners) (k : CaughtUp h ns i first) :
    CaughtUp (h.start n others) ns i first := by
  have hround : (h.start n others).store.round = some ⟨n, none, h.store.listeners⟩ := rfl
  apply k.congr
  unfold upTo
  rw [hround, hr, Ordered.turn_start hr hp]
  simp [hi]

theorem upTo_of_isIdle (hq : h.store.isIdle = true) (i : Nat) : h.upTo i = h.landed.length := by
  simp only [Store.isIdle, Bool.and_eq_true, Option.isNone_iff_eq_none, List.isEmpty_iff] at hq
  simp [upTo, turn, line, hq.1, hq.2]

/-- What a listener heard when all is quiet: everything from some write on. -/
theorem heard_of_caughtUp (o : Ordered h told) (hq : h.store.isIdle = true) {i first : Nat}
    (k : CaughtUp h (told i) i first) : h.heard i = h.landed.drop first := by
  have hm : (h.heard i).map some = (h.landed.drop first).map some := by
    rw [o.heard i, k.2, upTo_of_isIdle hq]
    apply List.ext_getElem?
    intro j
    rw [List.getElem?_map, List.getElem?_map, List.getElem?_drop]
    by_cases hj : j < h.landed.length - first
    · have hlt : first + j < h.landed.length := by omega
      rw [List.getElem?_range' hj, List.getElem?_eq_getElem hlt]
      simp [hlt]
    · have hge : h.landed.length ≤ first + j := by omega
      rw [List.getElem?_eq_none (by simpa using hj), List.getElem?_eq_none hge]
      rfl
  exact (List.map_inj_right fun _ _ he => Option.some.inj he).1 hm

variable [Listener L V]

theorem CaughtUp.call (o : Ordered h told) {n : Notice V} {i : Nat} {waiting : List Nat}
    (hr : h.store.round = some ⟨n, none, i :: waiting⟩) {j first : Nat} {ns : List Nat}
    (k : CaughtUp h ns j first) :
    CaughtUp (h.call n i waiting) (ns ++ numbers j [(.called i h.turn : Beat L V)]) j first := by
  obtain ⟨hf, ht⟩ := k
  by_cases hij : i = j
  · subst hij
    rw [Ordered.upTo_called hr] at hf ht
    refine ⟨?_, ?_⟩
    · rw [o.upTo_call_self hr]
      omega
    · have hlen : h.turn + 1 - first = h.turn - first + 1 := by omega
      have hlast : first + 1 * (h.turn - first) = h.turn := by omega
      rw [o.upTo_call_self hr, hlen, List.range'_concat, hlast, numbers_called, if_pos rfl, ht]
  · have hup := Ordered.upTo_call_of_ne hr hij
    refine ⟨by rwa [hup], ?_⟩
    rw [hup, numbers_called, if_neg hij, List.append_nil]
    exact ht

/-- Unless a listener fails, a step tells a registered listener of the write that comes next for
it, or of none. -/
theorem CaughtUp.step (o : Ordered h told) {b : Beat L V} (s : Step h b g)
    (hb : b.isFailed = false) {i first : Nat} {ns : List Nat} (hi : i ∈ h.store.listeners)
    (k : CaughtUp h ns i first) : CaughtUp g (ns ++ numbers i [b]) i first := by
  cases s with
  | start hr hp => simpa using k.start hr hp hi
  | close hr => simpa using k.congr (o.upTo_close hr i)
  | call hr => exact k.call o hr
  | pass hr => simpa using k.congr (Ordered.upTo_pass hr i)
  | fail message hr => cases hb

theorem listeners_step {b : Beat L V} (s : Step h b g) :
    g.store.listeners = h.store.listeners ∧
      g.store.subscribers.length = h.store.subscribers.length := by
  cases s with
  | call hr => exact ⟨rfl, by simp [call, note, setRound, alter, Store.alter]⟩
  | _ => exact ⟨rfl, rfl⟩

theorem Complete.step (o : Ordered h told) {b : Beat L V} (s : Step h b g)
    (hb : b.isFailed = false) (k : Complete h told) :
    Complete g fun i => told i ++ numbers i [b] := by
  intro i hi
  rw [(listeners_step s).1] at hi
  obtain ⟨first, hf⟩ := k i hi
  exact ⟨first, hf.step o s hb hi⟩

theorem complete_course {bs : List (Beat L V)} (c : Course h bs g) (o : Ordered h told)
    (hb : ∀ b ∈ bs, b.isFailed = false) (k : Complete h told) :
    Complete g fun i => told i ++ numbers i bs := by
  induction c using Course.deeds_induction with
  | rest => simpa using k
  | asked asker r c d ih =>
    have km := ih fun b hm => hb b (List.mem_append_left _ hm)
    simpa using Complete.deeds d (ordered_course c o) km
  | step c s ih =>
    have km := ih fun b hm => hb b (List.mem_append_left _ hm)
    simpa using km.step (ordered_course c o) s (hb _ (by simp))

theorem mem_listeners_of_course {bs : List (Beat L V)} (c : Course h bs g) {i : Nat}
    (hi : i < h.store.subscribers.length) :
    h.store.subscribers.length ≤ g.store.subscribers.length ∧
      (i ∈ g.store.listeners → i ∈ h.store.listeners) := by
  induction c using Course.deeds_induction with
  | rest => exact ⟨Nat.le_refl _, id⟩
  | asked asker r c d ih =>
    have hd := mem_listeners_of_deeds d (Nat.lt_of_lt_of_le hi ih.1)
    exact ⟨Nat.le_trans ih.1 hd.1, fun hg => ih.2 (hd.2 hg)⟩
  | step c s ih =>
    obtain ⟨hl, hn⟩ := listeners_step s
    exact ⟨Nat.le_trans ih.1 (Nat.le_of_eq hn.symm), fun hg => ih.2 (hl ▸ hg)⟩

/-- A place is given to one listener only, so one that is registered at both ends of a course was
registered all the way: it has caught up from the same write on. -/
theorem caughtUp_course {bs : List (Beat L V)} (c : Course h bs g) (o : Ordered h told)
    (hb : ∀ b ∈ bs, b.isFailed = false) {i first : Nat} {ns : List Nat}
    (hi : i ∈ h.store.listeners) (hg : i ∈ g.store.listeners) (k : CaughtUp h ns i first) :
    CaughtUp g (ns ++ numbers i bs) i first := by
  have hlen := o.known i hi
  induction c using Course.deeds_induction with
  | rest => simpa using k
  | asked asker r c d ih =>
    have hm := (mem_listeners_of_course c hlen).1
    have km := ih (fun b hm => hb b (List.mem_append_left _ hm))
      ((mem_listeners_of_deeds d (Nat.lt_of_lt_of_le hlen hm)).2 hg)
    simpa using CaughtUp.deeds d km
  | step c s ih =>
    have hs := (listeners_step s).1 ▸ hg
    have km := ih (fun b hm => hb b (List.mem_append_left _ hm)) hs
    simpa using km.step (ordered_course c o) s (hb _ (by simp)) hs

/-- From any moment on, a listener that stays registered is told of all that it may still be told of.
-/
theorem caughtUp_since {bs : List (Beat L V)} (c : Course h bs g) (o : Ordered h told)
    (sound : ∀ b ∈ bs, b.isFailed = false) {i : Nat} (hi : i ∈ h.store.listeners)
    (hg : i ∈ g.store.listeners) : CaughtUp g (numbers i bs) i (h.upTo i) := by
  have start : CaughtUp h [] i (h.upTo i) := ⟨Nat.le_refl _, by simp⟩
  exact caughtUp_course c o sound hi hg start

/-- Each listener is told of writes in the order in which they landed. Unless a listener fails, one
that was registered in `h` and still is in `g`, where all is quiet, was told exactly once of each
write that landed in between, and what `g` keeps under a tag is what each registered listener saw
last under it, if it saw anything. -/
theorem delivery_in_order_and_lossless {p : Bool} {h g : Hub L V} {bs cs : List (Beat L V)}
    (hb : Course { isPinned := p } bs h) (hc : Course h cs g)
    (sound : ∀ b ∈ bs ++ cs, b.isFailed = false) (i : Nat) :
    ((numbers i (bs ++ cs)).Pairwise (· < ·) ∧
      (g.heard i).map some = (numbers i (bs ++ cs)).map (g.landed[·]?)) ∧
    (g.store.isIdle = true → i ∈ g.store.listeners →
      (i ∈ h.store.listeners → ∀ k, h.landed.length ≤ k → k < g.landed.length →
        (numbers i (bs ++ cs)).count k = 1) ∧
      ∀ tag n, lastUnder tag (g.heard i) = some n → g.store.read tag = some n.entry) := by
  have oh : Ordered h fun i => numbers i bs := by simpa using ordered_course hb (ordered_empty p)
  have og : Ordered g fun i => numbers i (bs ++ cs) := by simpa using ordered_course hc oh
  have kh : Complete h fun i => numbers i bs := by
    have k₀ : Complete ({ isPinned := p } : Hub L V) fun _ => [] := by
      intro j hj
      cases hj
    simpa using complete_course hb (ordered_empty p)
      (fun b hm => sound b (List.mem_append_left _ hm)) k₀
  have kg : Complete g fun i => numbers i (bs ++ cs) := by
    simpa using complete_course hc oh (fun b hm => sound b (List.mem_append_right _ hm)) kh
  refine ⟨⟨og.increasing i, og.heard i⟩, fun hq hi => ⟨fun hih k hk hkg => ?_, fun tag n hn => ?_⟩⟩
  · obtain ⟨first, hf⟩ := kh i hih
    have hg := caughtUp_course hc oh (fun b hm => sound b (List.mem_append_right _ hm)) hih hi hf
    have hfirst : first ≤ k := Nat.le_trans hf.1 (Nat.le_trans (oh.upTo_le i) hk)
    have hmem : k ∈ numbers i (bs ++ cs) := by
      rw [numbers_append, hg.2, upTo_of_isIdle hq, List.mem_range'_1]
      omega
    have hdistinct : (numbers i (bs ++ cs)).Nodup := (og.increasing i).imp Nat.ne_of_lt
    rw [hdistinct.count, if_pos hmem]
  · obtain ⟨first, hf⟩ := kg i hi
    rw [heard_of_caughtUp og hq hf] at hn
    rw [og.read tag, lastUnder_of_drop hn]
    rfl

/-! ## A listener that writes while it is told -/

/-- Answers the value one with two writes: one under the same tag, one under another. -/
def rewriter : Script Nat :=
  .ofRules [⟨{ tag := some "t", value := some 1 }, 1,
    [.ask (.write "t" (.success 2)), .ask (.write "u" (.failure "late"))]⟩]

/-- The rewriter and a listener behind it that only hears. -/
def watched : Hub (Script Nat) Nat :=
  (Hub.perform { (Hub.perform {} none (.subscribe "a" rewriter)).1 with fault := none } none
    (.subscribe "b" (.ofRules []))).1

def rewriting : Hub (Script Nat) Nat :=
  (Hub.perform { watched with fault := none } none (.write "t" (.success 1))).1

def rewritten : Hub (Script Nat) Nat := advance 20 rewriting

example : rewritten.heard 1 =
    [⟨"t", 1, .success 1⟩, ⟨"t", 2, .success 2⟩, ⟨"u", 1, .failure "late"⟩] := by decide

theorem course_watched : Course {} [.asked none (.subscribe "a" rewriter),
    .asked none (.subscribe "b" (.ofRules []))] watched :=
  ((Course.rest {}).ask none (.subscribe "a" rewriter)).ask none (.subscribe "b" (.ofRules []))

theorem course_rewritten : Course watched
    ([.asked none (.write "t" (.success 1))] ++ beats 20 rewriting) rewritten :=
  ((Course.rest watched).ask none (.write "t" (.success 1))).trans (course_advance 20 rewriting)

/-- The listener behind the rewriter is told once of the write that the rewriter makes, and what it
saw last is what is kept. -/
theorem delivery_behind_rewriter :
    (numbers 1 ([.asked none (.subscribe "a" rewriter), .asked none (.subscribe "b" (.ofRules [])),
      .asked none (.write "t" (.success 1))] ++ beats 20 rewriting)).count 1 = 1 ∧
    rewritten.store.read "t" = some ⟨2, .success 2⟩ := by
  have quiet : rewritten.store.isIdle = true := by decide
  have registered : 1 ∈ rewritten.store.listeners := by decide
  have d := delivery_in_order_and_lossless (p := false) course_watched course_rewritten
    (by decide) 1
  obtain ⟨once, last⟩ := d.2 quiet registered
  exact ⟨once (by decide) 1 (by decide) (by decide), last "t" ⟨"t", 2, .success 2⟩ (by decide)⟩

end Hub
end SchemaBoard
