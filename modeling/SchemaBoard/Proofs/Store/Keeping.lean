import SchemaBoard.Store.Keeping
import SchemaBoard.Proofs.Store.Subscription

/-!
# Listeners that keep subscriptions

On any course of an estate, whatever is asked, handed over and failed, the registered listeners are
those of the standing subscriptions and those whose subscriptions were lost on the way. A request
loses one just if it drops a listener on the spot that keeps one subscription besides the one that
the request ends. What carries the proof is that each action comes down to requests to the hub, to
handles that are spent, and to steps that leave subscriptions alone. Main statements:
`accounted_course`, `done_iff`, `lost_iff`, and `course_of_hub` for listeners that keep nothing.
-/
namespace SchemaBoard

variable {L V : Type} {lost : List Nat}

namespace Estate

variable {e m g : Estate L V} {asker : Option Nat} {r : Request L V} {i j : Nat} {slot : String}

/-! ## Handles that are spent -/

theorem mem_keeps {q : String × Nat} :
    q ∈ e.keeps i ↔ q ∈ e.hub.slots ∧ e.kept.lookup q.1 = some i := by
  simp [keeps]

/-- A handle is spent, and the listener of its subscription stays. -/
theorem accounted_spend (a : e.hub.Accounted lost) (stands : (slot, j) ∈ e.hub.slots) :
    (e.spend slot).hub.Accounted (lost ++ [j]) where
  made := by
    have hlog : madeIn (e.spend slot).hub.log = madeIn e.hub.log := madeIn_cons_none rfl
    rw [hlog]
    exact a.made
  standing s k := by
    have hlog : Stands (e.spend slot).hub.log s k ↔ _ := stands_cons
    have hslots : (e.spend slot).hub.slots = Keyed.remove slot e.hub.slots := rfl
    rw [hlog, hslots, Keyed.mem_remove, ← a.standing]
    simp [Event.made?, Event.ended?, and_comm, eq_comm]
  distinct := Hub.distinct_remove a slot
  inOrder := Hub.inOrder_remove a slot
  below q hq := a.below q (Keyed.mem_remove.1 hq).1
  ranked := a.ranked
  known := a.known
  listeners alive := by
    have once : (e.hub.slots.map Prod.snd).Nodup := a.inOrder.imp Nat.ne_of_lt
    have listed : j ∈ e.hub.slots.map Prod.snd := List.mem_map.2 ⟨_, stands, rfl⟩
    have found : e.hub.slots.lookup slot = some j := Keyed.lookup_of_mem a.distinct stands
    have rest : (e.spend slot).hub.slots.map Prod.snd = (e.hub.slots.map Prod.snd).erase j :=
      (Keyed.map_snd_remove a.distinct once found).trans (filter_ne_eq_erase once j)
    calc
      (e.spend slot).hub.store.listeners.Perm (e.hub.slots.map Prod.snd ++ lost) :=
        a.listeners alive
      (e.hub.slots.map Prod.snd ++ lost).Perm
          ((e.spend slot).hub.slots.map Prod.snd ++ (j :: lost)) := by
        rw [rest]
        exact ((List.perm_cons_erase listed).append_right lost).trans List.perm_middle.symm
      ((e.spend slot).hub.slots.map Prod.snd ++ (j :: lost)).Perm
          ((e.spend slot).hub.slots.map Prod.snd ++ (lost ++ [j])) :=
        (List.perm_append_singleton j lost).symm.append_left _

/-! ## Actions -/

/-- The listeners are accounted for, and the round is where it was. -/
def Steady (round : Option (Round V)) (lost : List Nat) (e : Estate L V) : Prop :=
  e.hub.Accounted lost ∧ e.hub.store.round = round

end Estate

/-- What an action leaves has a property, which may speak of the listeners whose subscriptions are
lost so far. -/
def Upshot.Leaves {A : Type} (P : List Nat → Estate L V → Prop) (lost : List Nat) :
    Upshot L V A → Prop
  | .done g _ => P lost g
  | .lost g j => P (lost ++ [j]) g
  | .aborted => True

theorem Upshot.Leaves.left {A : Type} {P : List Nat → Estate L V → Prop} {u : Upshot L V A}
    {g : Estate L V} {js : List Nat} (h : u.Leaves P lost) (hu : u.left? = some (g, js)) :
    P (lost ++ js) g := by
  cases u with
  | done m x =>
    obtain ⟨rfl, rfl⟩ := Prod.mk.inj (Option.some.inj hu)
    rw [List.append_nil]
    exact h
  | lost m j =>
    obtain ⟨rfl, rfl⟩ := Prod.mk.inj (Option.some.inj hu)
    exact h
  | aborted => cases hu

theorem Upshot.Leaves.imp {A : Type} {P Q : List Nat → Estate L V → Prop} {u : Upshot L V A}
    (h : u.Leaves P lost) (imp : ∀ lost g, P lost g → Q lost g) : u.Leaves Q lost := by
  cases u with
  | done m x => exact imp lost m h
  | lost m j => exact imp (lost ++ [j]) m h
  | aborted => trivial

namespace Estate

variable {e m g : Estate L V} {asker : Option Nat} {r : Request L V} {i j : Nat} {slot : String}
  {round : Option (Round V)}

theorem mem_hub_of_going {q : String × Nat} (hq : q ∈ e.going asker r) :
    q ∈ (e.after asker r).hub.slots := by
  unfold going at hq
  cases hd : e.hub.dropped? r with
  | none => simp [hd] at hq
  | some i =>
    rw [hd] at hq
    exact (mem_keeps.1 hq).1

/-- What a request leaves if nothing goes with the listener that it drops, or one subscription. -/
theorem leaves_perform {P : List Nat → Estate L V → Prop}
    (none : e.going asker r = [] → P lost (e.after asker r))
    (one : ∀ slot j, e.going asker r = [(slot, j)] →
      P (lost ++ [j]) ((e.after asker r).spend slot)) :
    (e.perform asker r).Leaves P lost := by
  unfold perform
  split
  · rename_i going
    exact none going
  · rename_i slot j going
    exact one slot j going
  · trivial

theorem round_after (e : Estate L V) (asker : Option Nat) (r : Request L V) :
    (e.after asker r).hub.store.round = e.hub.store.round :=
  Hub.round_deeds (Hub.deeds_request e.hub asker r)

theorem steady_perform (a : Steady round lost e) (asker : Option Nat) (r : Request L V) :
    (e.perform asker r).Leaves (Steady round) lost := by
  have after : (e.after asker r).hub.Accounted lost := a.1.perform asker r
  refine leaves_perform (fun _ => ⟨after, (round_after e asker r).trans a.2⟩) fun slot j going => ?_
  have mem : (slot, j) ∈ (e.after asker r).hub.slots := mem_hub_of_going (by simp [going])
  exact ⟨accounted_spend after mem, (round_after e asker r).trans a.2⟩

/-- What every single discarding keeps is kept by all of them. It may speak of the slots that are
still to come. -/
theorem leaves_discardAll {P : List String → List Nat → Estate L V → Prop}
    (one : ∀ slot slots lost e, P (slot :: slots) lost e →
      (e.perform (some i) (.discard slot)).Leaves (P slots) lost)
    {slots : List String} (h : P slots lost e) : (e.discardAll i slots).Leaves (P []) lost := by
  induction slots generalizing e lost with
  | nil => exact h
  | cons slot slots ih =>
    have first := one slot slots lost e h
    unfold discardAll
    split
    · rename_i g _ u
      rw [u] at first
      exact ih first
    · rename_i g j u
      rw [u] at first
      have rest := ih first
      split
      · rename_i m _ v
        rwa [v] at rest
      · trivial
    · trivial

theorem steady_letGo (a : e.hub.Accounted lost) (alive : e.hub.isAlive = true) (n : Notice V)
    (i : Nat) (waiting : List Nat) :
    (e.letGo n i waiting).Leaves (Steady (some ⟨n, none, waiting⟩)) lost := by
  have passed : (e.hub.setRound (some ⟨n, none, waiting⟩)).Accounted lost :=
    a.spared (.of_log rfl rfl rfl rfl fun _ => alive)
  unfold letGo
  dsimp only
  split
  · exact ⟨passed, rfl⟩
  · exact leaves_discardAll (P := fun _ => Steady (some ⟨n, none, waiting⟩))
      (fun _ _ _ _ a => steady_perform a _ _) ⟨passed, rfl⟩

theorem isAlive_of_steady {r : Round V} (a : Steady (some r) lost e) :
    e.hub.isAlive = true := by
  simp [Hub.isAlive, Store.isIdle, a.2]

theorem accounted_unwind (a : e.hub.Accounted lost) (alive : e.hub.isAlive = true) {n : Notice V}
    {held : List Nat} (u : e.unwind n held = some g) :
    g.hub.Accounted lost ∧ g.hub.isAlive = true := by
  induction held generalizing e with
  | nil =>
    obtain rfl := Option.some.inj u
    exact ⟨a, alive⟩
  | cons i waiting ih =>
    have first := steady_letGo a alive n i waiting
    unfold unwind at u
    split at u
    · rename_i m _ v
      rw [v] at first
      exact ih first.1 (isAlive_of_steady first) u
    · cases u

theorem accounted_abandon (a : e.hub.Accounted lost) (alive : e.hub.isAlive = true) {n : Notice V}
    {i : Nat} {held : List Nat} {message : String} (u : e.abandon n i held message = some g) :
    g.hub.Accounted lost := by
  obtain ⟨m, v, rfl⟩ := Option.map_eq_some_iff.1 u
  obtain ⟨am, alive⟩ := accounted_unwind a alive v
  exact am.spared (.of_quiet rfl rfl rfl rfl rfl fun _ => alive)

theorem leaves_elim {A : Type} {P : List Nat → Estate L V → Prop} {o : Option (Estate L V)}
    {u : Estate L V → Upshot L V A} (h : ∀ g, o = some g → (u g).Leaves P lost) :
    (o.elim .aborted u).Leaves P lost := by
  cases o with
  | none => trivial
  | some g => exact h g rfl

/-! ## Losses -/

/-- A slot that is emptied holds nothing any more, or what has just come. -/
theorem slots_perform_of_ended {h : Hub L V} (hs : h.ended? r = some slot)
    (asker : Option Nat) :
    ∃ tail, (h.perform asker r).1.slots = Keyed.remove slot h.slots ++ tail ∧
      ∀ q ∈ tail, q.1 = slot := by
  unfold Hub.ended? at hs
  split at hs
  · cases hs
  · rename_i heard
    rw [Hub.perform_of_heard (fun needs => by simpa [needs] using heard)]
    cases r with
    | subscribe s l =>
      obtain rfl := Option.some.inj hs
      exact ⟨_, Hub.slots_fill h s l, by simp⟩
    | unsubscribe s =>
      obtain rfl := Option.some.inj hs
      exact ⟨[], by rw [List.append_nil]; exact Hub.slots_vacate h s, by simp⟩
    | discard s =>
      obtain rfl := Option.some.inj hs
      exact ⟨[], by rw [List.append_nil]; exact Hub.slots_vacate h s, by simp⟩
    | _ => cases hs

/-- Where a slot is emptied, and what comes there is in nobody's keeping, a listener keeps what it
kept in other slots. -/
theorem keeps_remove {tail : Keyed String Nat}
    (slots : g.hub.slots = Keyed.remove slot e.hub.slots ++ tail) (fresh : ∀ q ∈ tail, q.1 = slot)
    (kept : g.kept = Keyed.remove slot e.kept) (i : Nat) :
    g.keeps i = (e.keeps i).filter (·.1 ≠ slot) := by
  have none_fresh : tail.filter (fun q => g.kept.lookup q.1 = some i) = [] := by
    refine List.filter_eq_nil_iff.2 fun q hq => ?_
    rw [fresh q hq, kept, Keyed.lookup_remove_self]
    simp
  rw [keeps, slots, List.filter_append, none_fresh, List.append_nil, keeps, Keyed.remove,
    List.filter_filter, List.filter_filter]
  refine List.filter_congr fun q _ => ?_
  by_cases other : q.1 = slot
  · simp [other]
  · simp [other, kept, Keyed.lookup_remove_of_ne _ other]

theorem keeps_after (hs : e.hub.ended? r = some slot) (asker : Option Nat) (i : Nat) :
    (e.after asker r).keeps i = (e.keeps i).filter (·.1 ≠ slot) := by
  obtain ⟨tail, slots, fresh⟩ := slots_perform_of_ended hs asker
  exact keeps_remove slots fresh (by simp [after, hs]) i

theorem dropped?_eq_some_iff {h : Hub L V} (a : h.Accounted lost) :
    h.dropped? r = some i ↔ ∃ slot, h.ended? r = some slot ∧ h.isAlive = true ∧
      Stands h.log slot i ∧ h.holds i = false := by
  have registered {slot} (alive : h.isAlive = true) (stands : Stands h.log slot i) :
      i ∈ h.store.listeners :=
    (a.registered.listeners alive i).2 (.inl ⟨slot, stands⟩)
  unfold Hub.dropped?
  rw [Option.filter_eq_some_iff, Option.bind_eq_some_iff]
  simp only [a.lookup_iff, Bool.and_eq_true, List.contains_iff_mem, Bool.not_eq_true']
  constructor
  · rintro ⟨⟨slot, hs, stands⟩, ⟨alive, -⟩, free⟩
    exact ⟨slot, hs, alive, stands, free⟩
  · rintro ⟨slot, hs, alive, stands, free⟩
    exact ⟨⟨slot, hs, stands⟩, ⟨alive, registered alive stands⟩, free⟩

/-- The request ends the subscription of a listener that no round holds, and these others go with
it. -/
def Drops (e : Estate L V) (r : Request L V) (kept : Keyed String Nat) : Prop :=
  ∃ slot i, e.hub.ended? r = some slot ∧ e.hub.isAlive = true ∧ Stands e.hub.log slot i ∧
    e.hub.holds i = false ∧ (e.keeps i).filter (·.1 ≠ slot) = kept

theorem going_of_drops {kept : Keyed String Nat} (a : e.hub.Accounted lost) (d : e.Drops r kept)
    (asker : Option Nat) : e.going asker r = kept := by
  obtain ⟨slot, i, hs, alive, stands, free, keeps⟩ := d
  rw [going, (dropped?_eq_some_iff a).2 ⟨slot, hs, alive, stands, free⟩]
  exact (keeps_after hs asker i).trans keeps

theorem drops_going (a : e.hub.Accounted lost) (asker : Option Nat) (r : Request L V) :
    e.going asker r = [] ∨ e.Drops r (e.going asker r) := by
  cases hd : e.hub.dropped? r with
  | none =>
    left
    rw [going, hd]
    rfl
  | some i =>
    obtain ⟨slot, hs, alive, stands, free⟩ := (dropped?_eq_some_iff a).1 hd
    right
    refine ⟨slot, i, hs, alive, stands, free, ?_⟩
    rw [going, hd]
    exact (keeps_after hs asker i).symm

theorem perform_eq_done_iff :
    (∃ g, e.perform asker r = .done g (e.hub.perform asker r).2 ∧
      g.hub = (e.hub.perform asker r).1) ↔ e.going asker r = [] := by
  unfold perform
  split
  · rename_i going
    exact ⟨fun _ => going, fun _ => ⟨_, rfl, rfl⟩⟩
  · rename_i going
    constructor
    · rintro ⟨g, u, -⟩
      cases u
    · intro none
      cases going.symm.trans none
  · rename_i few one
    constructor
    · rintro ⟨g, u, -⟩
      cases u
    · exact fun none => absurd none few

theorem perform_eq_lost_iff :
    (∃ g, e.perform asker r = .lost g j) ↔ ∃ slot, e.going asker r = [(slot, j)] := by
  unfold perform
  split
  · rename_i going
    simp [going]
  · rename_i slot k going
    constructor
    · rintro ⟨g, u⟩
      exact ⟨slot, (Upshot.lost.inj u).2 ▸ going⟩
    · rintro ⟨t, u⟩
      have same : (slot, k) = (t, j) := List.head_eq_of_cons_eq (going.symm.trans u)
      exact ⟨_, by rw [(Prod.mk.inj same).2]⟩
  · rename_i few one
    constructor
    · rintro ⟨g, u⟩
      cases u
    · rintro ⟨t, u⟩
      exact absurd u (one t j)

/-- A request does what it does to the hub just if nothing goes with whom it drops. -/
theorem done_iff (a : e.hub.Accounted lost) :
    (∃ g, e.perform asker r = .done g (e.hub.perform asker r).2 ∧
      g.hub = (e.hub.perform asker r).1) ↔ ∀ kept, e.Drops r kept → kept = [] := by
  rw [perform_eq_done_iff]
  constructor
  · intro none kept d
    exact (going_of_drops a d asker).symm.trans none
  · intro h
    exact (drops_going a asker r).elim id (h _)

/-- A request loses a subscription just if this one and no other goes with whom it drops. -/
theorem lost_iff (a : e.hub.Accounted lost) :
    (∃ g, e.perform asker r = .lost g j) ↔ ∃ slot, e.Drops r [(slot, j)] := by
  rw [perform_eq_lost_iff]
  constructor
  · rintro ⟨slot, one⟩
    have d := (drops_going a asker r).resolve_left (by simp [one])
    exact ⟨slot, one ▸ d⟩
  · rintro ⟨slot, d⟩
    exact ⟨slot, going_of_drops a d asker⟩

/-! ## Where no listener keeps anything -/

@[simp] theorem keeps_of_hub (h : Hub L V) (i : Nat) : Estate.keeps ⟨h, []⟩ i = [] := by
  simp [keeps]

theorem after_of_hub (h : Hub L V) (asker : Option Nat) (r : Request L V) :
    Estate.after ⟨h, []⟩ asker r = ⟨(h.perform asker r).1, []⟩ := by
  unfold after
  cases h.ended? r <;> rfl

theorem perform_of_hub (h : Hub L V) (asker : Option Nat) (r : Request L V) :
    Estate.perform ⟨h, []⟩ asker r = .done ⟨(h.perform asker r).1, []⟩ (h.perform asker r).2 := by
  have going : Estate.going ⟨h, []⟩ asker r = [] := by
    rw [Estate.going, after_of_hub]
    cases h.dropped? r <;> simp
  rw [Estate.perform, going, after_of_hub]

theorem letGo_of_hub (h : Hub L V) (n : Notice V) (i : Nat) (waiting : List Nat) :
    Estate.letGo ⟨h, []⟩ n i waiting = .done ⟨h.setRound (some ⟨n, none, waiting⟩), []⟩ () := by
  simp [letGo, discardAll]

theorem unwind_of_hub (h : Hub L V) (n : Notice V) (held : List Nat) :
    ∃ round, Estate.unwind ⟨h, []⟩ n held = some ⟨h.setRound round, []⟩ := by
  induction held generalizing h with
  | nil => exact ⟨h.store.round, rfl⟩
  | cons i waiting ih =>
    obtain ⟨round, u⟩ := ih (h.setRound (some ⟨n, none, waiting⟩))
    exact ⟨round, by rw [unwind, letGo_of_hub]; exact u⟩

theorem abandon_of_hub (h : Hub L V) (n : Notice V) (i : Nat) (held : List Nat)
    (message : String) :
    Estate.abandon ⟨h, []⟩ n i held message = some ⟨h.abandon i message, []⟩ := by
  obtain ⟨round, u⟩ := unwind_of_hub h n held
  rw [abandon, u]
  rfl

/-! ## Steps -/

variable [Listener L V]

/-- What a listener's step leaves. The round goes on without it, or it asks something, or it fails.
If a subscription is lost over one of the first two, the round ends early with those whom it still
holds. -/
theorem leaves_follow {P Q R : List Nat → Estate L V → Prop} {n : Notice V} {i : Nat}
    {waiting : List Nat} {busy : String}
    (passed : (e.letGo n i waiting).Leaves Q lost)
    (asked : ∀ r, (e.perform (some i) r).Leaves R lost)
    (goes : ∀ lost g, Q lost g → P lost g)
    (learns : ∀ lost g f, R lost g → P lost { g with hub := g.hub.alter i f })
    (fails : ∀ message g, e.abandon n i (i :: waiting) message = some g → P lost g)
    (without : ∀ lost g m, Q lost g → g.abandon n i waiting busy = some m → P lost m)
    (within : ∀ lost g m, R lost g → g.abandon n i (i :: waiting) busy = some m → P lost m) :
    (e.follow busy n i waiting).Leaves P lost := by
  unfold follow
  split
  · split
    · rename_i g _ u
      rw [u] at passed
      exact goes lost g passed
    · rename_i g j u
      rw [u] at passed
      exact leaves_elim fun m => without _ g m passed
    · trivial
  · exact leaves_elim (fails _)
  · rename_i r _
    have asked := asked r
    split
    · rename_i g x u
      rw [u] at asked
      exact learns lost g _ asked
    · rename_i g j u
      rw [u] at asked
      exact leaves_elim fun m => within _ g m asked
    · trivial

theorem accounted_follow (a : e.hub.Accounted lost) {n : Notice V} {i : Nat} {waiting : List Nat}
    (hr : e.hub.store.round = some ⟨n, some i, waiting⟩) (busy : String) :
    (e.follow busy n i waiting).Leaves (fun lost g => g.hub.Accounted lost) lost := by
  have alive : e.hub.isAlive = true := isAlive_of_steady ⟨a, hr⟩
  refine leaves_follow (steady_letGo a alive n i waiting) (steady_perform ⟨a, hr⟩ (some i))
    ?goes ?learns ?fails ?without ?within
  case goes => exact fun lost g s => s.1
  case learns => exact fun lost g f s => s.1.spared (.alter g.hub i f)
  case fails => exact fun message g => accounted_abandon a alive
  case without => exact fun lost g m s => accounted_abandon s.1 (isAlive_of_steady s)
  case within => exact fun lost g m s => accounted_abandon s.1 (isAlive_of_steady s)

/-- A step is that of the listener that is being told, or one in which nobody is let go. -/
theorem step?_cases {busy : String} {u : Upshot L V Unit} (he : e.step? busy = some u) :
    (∃ n i waiting, e.hub.store.round = some ⟨n, some i, waiting⟩ ∧
      u = e.follow busy n i waiting) ∨
    ∃ beat h, Hub.Step e.hub beat h ∧
      (∀ n i waiting, e.hub.store.round ≠ some ⟨n, some i, waiting⟩) ∧
      u = .done { e with hub := h } () := by
  unfold step? at he
  split at he
  · rename_i n i waiting hr
    exact .inl ⟨n, i, waiting, hr, (Option.some.inj he).symm⟩
  · rename_i untold
    obtain ⟨h, hs, rfl⟩ := Option.map_eq_some_iff.1 he
    rcases Hub.step?_cases hs with s | ⟨i, l, r, asking, -, -⟩
    · exact .inr ⟨_, h, s, untold, rfl⟩
    · obtain ⟨n, waiting, hr⟩ := asking.round
      exact absurd hr (untold n i waiting)

theorem accounted_step? (a : e.hub.Accounted lost) {busy : String} {u : Upshot L V Unit}
    (he : e.step? busy = some u) : u.Leaves (fun lost g => g.hub.Accounted lost) lost := by
  rcases step?_cases he with ⟨n, i, waiting, hr, rfl⟩ | ⟨beat, h, s, -, rfl⟩
  · exact accounted_follow a hr busy
  · exact a.spared (.step s)

/-! ## Courses -/

/-- The courses of an estate, with the listeners whose subscriptions are lost on the way. -/
inductive Course : Estate L V → List Nat → Estate L V → Prop where
  | rest (e : Estate L V) : Course e [] e
  /-- Something is asked, at any moment and by anyone. -/
  | ask {e m g : Estate L V} {lost js : List Nat} (c : Course e lost m) (asker : Option Nat)
      (r : Request L V)
      (u : (perform { m with hub := { m.hub with fault := none } } asker r).left? = some (g, js)) :
      Course e (lost ++ js) g
  | step {e m g : Estate L V} {lost js : List Nat} (c : Course e lost m) (busy : String)
      {u : Upshot L V Unit} (hs : m.step? busy = some u) (hu : u.left? = some (g, js)) :
      Course e (lost ++ js) g
  | hand {e m : Estate L V} {lost : List Nat} (c : Course e lost m) (slot : String) (i : Nat)
      (here : i ∈ m.hub.store.listeners ∨ m.hub.holds i = true) : Course e lost (m.hand slot i)
  | take {e m : Estate L V} {lost : List Nat} (c : Course e lost m) (slot : String) :
      Course e lost (m.take slot)

theorem accounted_course (c : Course e lost g) (a : e.hub.Accounted []) :
    g.hub.Accounted lost := by
  induction c with
  | rest => exact a
  | @ask m g lost js c asker r u ih =>
    have calm : Hub.Accounted lost { m.hub with fault := none } :=
      ih.spared (.of_log rfl rfl rfl rfl id)
    exact ((steady_perform ⟨calm, rfl⟩ asker r).left u).1
  | step c busy hs hu ih => exact (accounted_step? ih hs).left hu
  | hand c slot i here ih => exact ih
  | take c slot ih => exact ih

theorem step?_of_hub (h : Hub L V) (busy : String) :
    Estate.step? ⟨h, []⟩ busy = h.step?.map fun g => .done ⟨g, []⟩ () := by
  unfold step?
  split
  · rename_i n i waiting hr
    have stepped : h.step? = some (h.follow n i waiting) := by
      unfold Hub.step?
      rw [hr]
    rw [stepped, Option.map_some, follow, Hub.follow]
    dsimp only
    cases (h.store.state? i).bind Listener.intent with
    | none =>
      dsimp only
      rw [letGo_of_hub]
    | some o =>
      cases o with
      | fail message =>
        dsimp only
        rw [abandon_of_hub]
        rfl
      | ask r =>
        dsimp only
        rw [perform_of_hub]
  · rfl

/-- What a hub does is what an estate does in which no listener keeps anything. Nothing is lost. -/
theorem course_of_hub {h k : Hub L V} {bs : List (Beat L V)} (c : Hub.Course h bs k) :
    Course ⟨h, []⟩ [] ⟨k, []⟩ := by
  induction c with
  | rest => exact .rest _
  | ask c asker r ih => exact ih.ask asker r (congrArg Upshot.left? (perform_of_hub _ asker r))
  | @step m k bs c e ih =>
    have stepped : Estate.step? ⟨m, []⟩ "" = some (.done ⟨k, []⟩ ()) := by
      rw [step?_of_hub, e]
      rfl
    exact ih.step "" stepped rfl

end Estate
end SchemaBoard
