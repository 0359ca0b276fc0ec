import SchemaBoard.Proofs.Store.Keeping
import SchemaBoard.Store.Script

/-!
# Whose the subscriptions are

Every subscription that a listener keeps is kept by one that is registered or held by a round. One
that has left keeps nothing any more when the round has let go of it, since what it kept is discarded
then. So the registered listeners are those of the standing subscriptions unless a listener that is
dropped on the spot keeps another subscription. Main statement: `listeners_of_standing_iff`.
-/
namespace SchemaBoard

variable {L V : Type}

namespace Hub

variable {h : Hub L V} {r : Request L V} {i : Nat} {slot : String}

theorem lookup_of_left (here : i ∈ h.store.listeners)
    (left : i ∉ (h.vacate slot).1.store.listeners) :
    h.isAlive = true ∧ h.slots.lookup slot = some i := by
  unfold vacate at left
  split at left
  · rename_i j hj
    unfold detach at left
    split at left
    · rename_i alive
      have same : ¬ i ≠ j := fun other => left (List.mem_filter.2 ⟨here, by simpa using other⟩)
      rw [not_not.1 same]
      exact ⟨alive, hj⟩
    · exact absurd here left
  · exact absurd here left

theorem ended?_of_heard (heard : r.needsStore = true → h.isOpen = true) :
    h.ended? r = r.vacated? := by
  have pass : (r.needsStore && !h.isOpen) = false := by
    cases hn : r.needsStore
    · rfl
    · simp [heard hn]
  simp [ended?, pass]

/-- Who leaves is the listener of the subscription that ends. -/
theorem ended_of_left (here : i ∈ h.store.listeners) {asker : Option Nat}
    (left : i ∉ (h.perform asker r).1.store.listeners) :
    ∃ slot, h.ended? r = some slot ∧ h.isAlive = true ∧ h.slots.lookup slot = some i := by
  by_cases heard : r.needsStore = true → h.isOpen = true
  · rw [perform_of_heard heard] at left
    rw [ended?_of_heard heard]
    cases r with
    | subscribe s l =>
      have came : i ∈ (h.subscribe s l).store.listeners := List.mem_append_left _ here
      exact ⟨s, rfl, isAlive_of_isOpen (heard rfl), (lookup_of_left came left).2⟩
    | unsubscribe s => exact ⟨s, rfl, lookup_of_left here left⟩
    | discard s => exact ⟨s, rfl, lookup_of_left here left⟩
    | _ =>
      rw [← (Spared.serve heard rfl).listeners] at here
      exact absurd here left
  · rw [Classical.not_imp, Bool.not_eq_true] at heard
    rw [perform_of_unheard heard.1 heard.2] at left
    exact absurd here left

theorem dropped?_of_left (here : i ∈ h.store.listeners) {asker : Option Nat}
    (left : i ∉ (h.perform asker r).1.store.listeners) (free : h.holds i = false) :
    h.dropped? r = some i := by
  obtain ⟨slot, ended, alive, found⟩ := ended_of_left here left
  simp [dropped?, ended, found, alive, here, free]

theorem slots_perform_of_unended (hs : h.ended? r = none) (asker : Option Nat) :
    (h.perform asker r).1.slots = h.slots := by
  by_cases heard : r.needsStore = true → h.isOpen = true
  · rw [perform_of_heard heard]
    rw [ended?_of_heard heard] at hs
    exact (Spared.serve heard hs).slots
  · rw [Classical.not_imp, Bool.not_eq_true] at heard
    rw [perform_of_unheard heard.1 heard.2]
    rfl

theorem holds_of_round {g : Hub L V} (same : g.store.round = h.store.round) (i : Nat) :
    g.holds i = h.holds i := by
  unfold holds
  rw [same]

theorem holds_told {n : Notice V} {j : Nat} {waiting : List Nat}
    (hr : h.store.round = some ⟨n, some j, waiting⟩) :
    h.holds i = true ↔ j = i ∨ i ∈ waiting := by
  simp [holds, hr]

theorem holds_passed {n : Notice V} {waiting : List Nat}
    (hr : h.store.round = some ⟨n, none, waiting⟩) : h.holds i = true ↔ i ∈ waiting := by
  simp [holds, hr]

end Hub

namespace Estate

variable {e m g : Estate L V} {asker : Option Nat} {r : Request L V} {i j : Nat} {slot : String}
  {lost : List Nat} {round : Option (Round V)}

/-- Whoever is neither registered nor held keeps nothing, but for these. -/
def Bare (others : List Nat) (e : Estate L V) : Prop :=
  ∀ i, i ∉ e.hub.store.listeners → e.hub.holds i = false → i ∉ others → e.keeps i = []

theorem keeps_spend (e : Estate L V) (slot : String) (i : Nat) :
    (e.spend slot).keeps i = (e.keeps i).filter (·.1 ≠ slot) :=
  keeps_remove (List.append_nil _).symm (by simp) rfl i

theorem keeps_after_of_unended (hs : e.hub.ended? r = none) (asker : Option Nat) (i : Nat) :
    (e.after asker r).keeps i = e.keeps i := by
  have slots : (e.after asker r).hub.slots = e.hub.slots := Hub.slots_perform_of_unended hs asker
  have kept : (e.after asker r).kept = e.kept := by simp [after, hs]
  rw [keeps, keeps, slots, kept]

theorem keeps_after_eq_nil (h : e.keeps i = []) (asker : Option Nat) (r : Request L V) :
    (e.after asker r).keeps i = [] := by
  cases hs : e.hub.ended? r with
  | none => rw [keeps_after_of_unended hs, h]
  | some slot => rw [keeps_after hs, h, List.filter_nil]

theorem mem_keeps_of_hand {q : String × Nat} (other : j ≠ i) (hq : q ∈ (e.hand slot i).keeps j) :
    q ∈ e.keeps j := by
  obtain ⟨stands, owned⟩ := mem_keeps.1 hq
  refine mem_keeps.2 ⟨stands, ?_⟩
  have elsewhere : q.1 ≠ slot := by
    intro same
    rw [same] at owned
    exact other (Option.some.inj (owned.symm.trans (Keyed.lookup_put_self _ _ _)))
  exact (Keyed.lookup_put_of_ne _ _ elsewhere).symm.trans owned

theorem mem_keeps_of_take {q : String × Nat} (hq : q ∈ (e.take slot).keeps j) : q ∈ e.keeps j := by
  obtain ⟨stands, owned⟩ := mem_keeps.1 hq
  refine mem_keeps.2 ⟨stands, ?_⟩
  have elsewhere : q.1 ≠ slot := by
    intro same
    rw [same] at owned
    exact Option.some_ne_none j (owned.symm.trans (Keyed.lookup_remove_self _ _))
  exact (Keyed.lookup_remove_of_ne _ elsewhere).symm.trans owned

/-- Whoever is gone after a request was gone before, or is the one that the request drops. -/
theorem gone_cases {others : List Nat} (b : Bare others e)
    (left : i ∉ (e.after asker r).hub.store.listeners)
    (free : (e.after asker r).hub.holds i = false) (own : i ∉ others) :
    (e.after asker r).keeps i = [] ∨ (e.after asker r).keeps i = e.going asker r := by
  rw [Hub.holds_of_round (round_after e asker r)] at free
  by_cases here : i ∈ e.hub.store.listeners
  · right
    rw [going, Hub.dropped?_of_left here left free]
    rfl
  · exact .inl (keeps_after_eq_nil (b i here free own) asker r)

theorem bare_after {others : List Nat} (b : Bare others e) (none : e.going asker r = []) :
    Bare others (e.after asker r) := by
  intro i left free own
  rcases gone_cases b left free own with h | h
  · exact h
  · exact h.trans none

theorem bare_spend {others : List Nat} (b : Bare others e)
    (one : e.going asker r = [(slot, j)]) : Bare others ((e.after asker r).spend slot) := by
  intro i left free own
  rw [keeps_spend]
  rcases gone_cases b left free own with h | h
  · rw [h, List.filter_nil]
  · simp [h, one]

theorem bare_perform {others : List Nat} (b : Bare others e) (asker : Option Nat)
    (r : Request L V) :
    (e.perform asker r).Leaves
      (fun _ g => Bare others g ∧ g.hub.store.round = e.hub.store.round) lost :=
  leaves_perform (fun none => ⟨bare_after b none, round_after e asker r⟩)
    fun _ _ one => ⟨bare_spend b one, round_after e asker r⟩

/-- What a listener that is let go keeps is in the slots that are still to be discarded. -/
structure Clearing (round : Option (Round V)) (i : Nat) (slots : List String) (e : Estate L V) :
    Prop where
  bare : Bare [i] e
  round : e.hub.store.round = round
  rest : ∀ q ∈ e.keeps i, q.1 ∈ slots

theorem Clearing.bare_nil (c : Clearing round i [] e) : Bare [] e := by
  intro k left free _
  by_cases own : k = i
  · rw [own]
    exact List.eq_nil_iff_forall_not_mem.2 fun q hq => List.not_mem_nil (c.rest q hq)
  · exact c.bare k left free (by simpa using own)

theorem clearing_perform {slots : List String} (c : Clearing round i (slot :: slots) e) :
    (e.perform (some i) (.discard slot)).Leaves (fun _ => Clearing round i slots) lost := by
  have same := (round_after e (some i) (.discard slot)).trans c.round
  have rest : ∀ q ∈ (e.after (some i) (.discard slot)).keeps i, q.1 ∈ slots := by
    intro q hq
    rw [keeps_after rfl, List.mem_filter] at hq
    exact (List.mem_cons.1 (c.rest q hq.1)).resolve_left (by simpa using hq.2)
  refine leaves_perform (fun none => ⟨bare_after c.bare none, same, rest⟩) fun spent j one =>
    ⟨bare_spend c.bare one, same, fun q hq => ?_⟩
  rw [keeps_spend] at hq
  exact rest q (List.mem_filter.1 hq).1

/-! ## Rounds -/

/-- The round goes on without a listener, and all who are gone keep nothing, that one included. -/
theorem bare_letGo (b : Bare [] e) {n : Notice V} {i : Nat} {waiting : List Nat}
    (held : ∀ k, e.hub.holds k = true → i = k ∨ k ∈ waiting) :
    (e.letGo n i waiting).Leaves
      (fun _ g => Bare [] g ∧ g.hub.store.round = some ⟨n, none, waiting⟩) lost := by
  have passed (k : Nat) : (e.hub.setRound (some ⟨n, none, waiting⟩)).holds k = true ↔ k ∈ waiting :=
    Hub.holds_passed rfl
  have others : Bare [i] { e with hub := e.hub.setRound (some ⟨n, none, waiting⟩) } := by
    intro k left free own
    refine b k left ?_ List.not_mem_nil
    by_contra holds
    rcases held k (by simpa using holds) with rfl | waits
    · exact own (List.mem_singleton.2 rfl)
    · rw [(passed k).2 waits] at free
      cases free
  unfold letGo
  dsimp only
  split
  · rename_i here
    refine ⟨fun k left free _ => others k left free ?_, rfl⟩
    rintro own
    obtain rfl := List.mem_singleton.1 own
    exact left (by simpa using here)
  · have start : Clearing (some ⟨n, none, waiting⟩) i
        ((Estate.keeps { e with hub := e.hub.setRound (some ⟨n, none, waiting⟩) } i).map (·.1))
        { e with hub := e.hub.setRound (some ⟨n, none, waiting⟩) } :=
      ⟨others, rfl, fun q hq => List.mem_map.2 ⟨q, hq, rfl⟩⟩
    have cleared : (discardAll _ i _).Leaves (fun _ => Clearing _ i []) lost :=
      leaves_discardAll (P := fun slots _ => Clearing _ i slots) (fun _ _ _ _ => clearing_perform)
        start
    exact cleared.imp fun _ _ c => ⟨c.bare_nil, c.round⟩

/-- When a round has been unwound, it holds nobody, and whoever is gone keeps nothing. -/
theorem bare_unwind (b : Bare [] e) {n : Notice V} {held : List Nat}
    (holds : ∀ k, e.hub.holds k = true → k ∈ held) (u : e.unwind n held = some g) :
    Bare [] g ∧ ∀ k, g.hub.holds k = false := by
  induction held generalizing e with
  | nil =>
    obtain rfl := Option.some.inj u
    exact ⟨b, fun k => Bool.eq_false_iff.2 fun hk => List.not_mem_nil (holds k hk)⟩
  | cons i waiting ih =>
    have first : (e.letGo n i waiting).Leaves _ [] :=
      bare_letGo b fun k hk => (List.mem_cons.1 (holds k hk)).imp Eq.symm id
    unfold unwind at u
    split at u
    · rename_i m _ v
      rw [v] at first
      exact ih first.1 (fun k => (Hub.holds_passed first.2).1) u
    · cases u

theorem bare_abandon (b : Bare [] e) {n : Notice V} {i : Nat} {held : List Nat} {message : String}
    (holds : ∀ k, e.hub.holds k = true → k ∈ held) (u : e.abandon n i held message = some g) :
    Bare [] g := by
  obtain ⟨m, v, rfl⟩ := Option.map_eq_some_iff.1 u
  obtain ⟨bare, free⟩ := bare_unwind b holds v
  exact fun k left _ => bare k left (free k)

variable [Listener L V]

theorem bare_follow (b : Bare [] e) {n : Notice V} {i : Nat} {waiting : List Nat}
    (hr : e.hub.store.round = some ⟨n, some i, waiting⟩) (busy : String) :
    (e.follow busy n i waiting).Leaves (fun _ => Bare []) lost := by
  have told : ∀ k, e.hub.holds k = true → k ∈ i :: waiting := fun k hk =>
    List.mem_cons.2 (((Hub.holds_told hr).1 hk).imp Eq.symm id)
  refine leaves_follow (bare_letGo b fun k => (Hub.holds_told hr).1) (bare_perform b (some i))
    ?goes ?learns ?fails ?without ?within
  case goes => exact fun _ g passed => passed.1
  case learns => exact fun _ g f asked => asked.1
  case fails => exact fun message g => bare_abandon b told
  case without =>
    exact fun _ g m passed => bare_abandon passed.1 fun k => (Hub.holds_passed passed.2).1
  case within =>
    intro _ g m asked
    have same (k : Nat) : g.hub.holds k = e.hub.holds k := Hub.holds_of_round asked.2 k
    exact bare_abandon asked.1 fun k hk => told k (same k ▸ hk)

theorem bare_step? (b : Bare [] e) {busy : String} {u : Upshot L V Unit}
    (he : e.step? busy = some u) : u.Leaves (fun _ => Bare []) lost := by
  rcases step?_cases he with ⟨n, i, waiting, hr, rfl⟩ | ⟨beat, h, s, untold, rfl⟩
  · exact bare_follow b hr busy
  · -- A round that starts takes up those who are registered.
    cases s with
    | start hr hp => exact fun i left _ => b i left (by simp [Hub.holds, hr])
    | close hr => exact fun i left _ => b i left (by simp [Hub.holds, hr])
    | @call n j waiting hr =>
      refine fun i left free => b i left ?_
      rw [Bool.eq_false_iff, Ne, Hub.holds_told rfl] at free
      rw [Bool.eq_false_iff, Ne, Hub.holds_passed hr]
      exact fun waits => free ((List.mem_cons.1 waits).imp Eq.symm id)
    | pass hr => exact absurd hr (untold _ _ _)
    | fail message hr => exact absurd hr (untold _ _ _)

theorem bare_course (c : Course e lost g) (b : Bare [] e) : Bare [] g := by
  induction c with
  | rest => exact b
  | @ask m g lost js c asker r u ih =>
    have calm : Bare [] { m with hub := { m.hub with fault := none } } := ih
    have asked : (perform _ asker r).Leaves _ lost := bare_perform calm asker r
    exact (asked.left u).1
  | @step m g lost js c busy u hs hu ih =>
    have stepped : u.Leaves _ lost := bare_step? ih hs
    exact stepped.left hu
  | @hand m lost c slot i here ih =>
    intro k left free own
    have other : k ≠ i := by
      rintro rfl
      exact here.elim left fun held => Bool.false_ne_true (free.symm.trans held)
    exact List.eq_nil_iff_forall_not_mem.2 fun q hq =>
      List.ne_nil_of_mem (mem_keeps_of_hand other hq) (ih k left free own)
  | @take m lost c slot ih =>
    intro k left free own
    exact List.eq_nil_iff_forall_not_mem.2 fun q hq =>
      List.ne_nil_of_mem (mem_keeps_of_take hq) (ih k left free own)

/-! ## Listeners of standing subscriptions -/

/-- On any course, whoever asks, in whatever rounds, whatever listeners keep and whether they fail
or not, the listeners are those of the subscriptions that were made and that nothing ended, and
those whose subscriptions were lost. So while the store lives they are those of the standing
subscriptions just if nothing was lost, as on every course on which no listener keeps anything. What
a listener keeps goes with it. A request that drops a listener on the spot does what it should just
if that one keeps no subscription besides the one that the request ends, and it loses a subscription
just if it keeps this one and no other. -/
theorem listeners_of_standing_iff {p : Bool} (c : Course ⟨{ isPinned := p }, []⟩ lost g) :
    g.hub.Registered lost ∧
    (g.hub.isAlive = true →
      ((∀ i, i ∈ g.hub.store.listeners ↔ ∃ slot, Stands g.hub.log slot i) ↔ lost = [])) ∧
    (∀ i, i ∉ g.hub.store.listeners → g.hub.holds i = false → g.keeps i = []) ∧
    (∀ (asker : Option Nat) (r : Request L V),
      ((∃ k, g.perform asker r = .done k (g.hub.perform asker r).2 ∧
        k.hub = (g.hub.perform asker r).1) ↔ ∀ kept, g.Drops r kept → kept = []) ∧
      ∀ j, (∃ k, g.perform asker r = .lost k j) ↔ ∃ slot, g.Drops r [(slot, j)]) ∧
    (∀ (bs : List (Beat L V)) (h : Hub L V), Hub.Course { isPinned := p } bs h →
      h.Registered []) := by
  have a : g.hub.Accounted lost := accounted_course c (Hub.accounted_empty p)
  have bare : Bare [] g := bare_course c fun i _ _ _ => keeps_of_hub _ i
  refine ⟨a.registered, fun alive => ?_, fun i left free => bare i left free List.not_mem_nil,
    fun asker r => ⟨done_iff a, fun j => lost_iff a⟩, fun bs h d => ?_⟩
  · have listed := a.registered.listeners alive
    constructor
    · intro standing
      refine List.eq_nil_iff_forall_not_mem.2 fun i hi => ?_
      obtain ⟨slot, stands⟩ := (standing i).1 ((listed i).2 (.inr hi))
      exact a.registered.lost alive i hi slot stands
    · rintro rfl i
      simpa using listed i
  · exact (accounted_course (course_of_hub d) (Hub.accounted_empty p)).registered

/-- Two listeners in their slots. -/
def pair : Hub (Script Nat) Nat :=
  (Hub.perform { (Hub.perform {} none (.subscribe "b" (.ofRules []))).1 with fault := none } none
    (.subscribe "a" (.ofRules []))).1

/-- The second of them keeps the subscription of the first. -/
def keeping : Estate (Script Nat) Nat := hand ⟨pair, []⟩ "b" 1

/-- The keeper is turned out, and what it kept is lost. -/
def bereft : Estate (Script Nat) Nat := (keeping.after none (.unsubscribe "a")).spend "b"

theorem course_keeping : Course ⟨{}, []⟩ [] keeping := by
  have idle : Hub.Course ({} : Hub (Script Nat) Nat) [] {} := .rest {}
  have first := idle.ask none (.subscribe "b" (.ofRules []))
  have second := first.ask none (.subscribe "a" (.ofRules []))
  exact (course_of_hub second).hand "b" 1 (.inl (by decide))

/-- Before, the two listeners are those of the standing subscriptions. Afterwards no subscription
stands, and the one that was kept is told of all that comes. -/
theorem kept_listener_stays :
    keeping.hub.store.count = {q : String × Nat | Stands keeping.hub.log q.1 q.2}.ncard ∧
    (∃ k, keeping.perform none (.unsubscribe "a") = .lost k 0) ∧
    bereft.hub.store.listeners = [0] ∧ (∀ slot i, ¬ Stands bereft.hub.log slot i) ∧
    ¬ (∀ i, i ∈ bereft.hub.store.listeners ↔ ∃ slot, Stands bereft.hub.log slot i) := by
  obtain ⟨before, -, -, loses, -⟩ := listeners_of_standing_iff (p := false) course_keeping
  have lost : ∃ k, keeping.perform none (.unsubscribe "a") = .lost k 0 :=
    ((loses none (.unsubscribe "a")).2 0).2 ⟨"b", "a", 1, rfl, rfl, by decide, rfl, by decide⟩
  have course : Course ⟨{}, []⟩ [0] bereft := course_keeping.ask none (.unsubscribe "a") rfl
  obtain ⟨behind, same, -⟩ := listeners_of_standing_iff (p := false) course
  have alone : bereft.hub.store.listeners = [0] := by decide
  refine ⟨before.count rfl, lost, alone, ?_, fun whole => ?_⟩
  · intro slot i stands
    have listed := (behind.listeners rfl i).2 (.inl ⟨slot, stands⟩)
    obtain rfl : i = 0 := by simpa [alone] using listed
    exact behind.lost rfl 0 (by decide) slot stands
  · exact absurd ((same rfl).1 whole) (by decide)

end Estate
end SchemaBoard
