import Mathlib.Data.Set.Card
import SchemaBoard.Proofs.Store.Membership
import SchemaBoard.Proofs.Store.Numbering

/-!
# Subscriptions and their listeners

What has happened tells which subscriptions stand: those that were made and that nothing ended
since. Each has a number, the count of those made before it. While a store lives and no listener
keeps a subscription, the listeners that are registered in it are those of the standing
subscriptions, in the order in which they were made, whoever asked for what and whoever failed. What
carries the proof is that the slots hold just the standing subscriptions in that order. Listeners
whose subscriptions are lost are counted along, for `SchemaBoard.Proofs.Store.Keeping`. Main
statement: `Accounted.registered`.
-/
namespace SchemaBoard

variable {L V : Type}

/-- The slot whose subscription a request ends, if that is all it does. -/
def Request.detached? : Request L V → Option String
  | .unsubscribe slot => some slot
  | .discard slot => some slot
  | _ => none

/-- The slot of the subscription that an event made. -/
def Event.made? : Event L V → Option String
  | .asked _ (.subscribe slot _) (.number _) => some slot
  | _ => none

/-- The slot whose subscription an event ended, if there was one. A subscription that comes ends the
one whose slot it takes. -/
def Event.ended? : Event L V → Option String
  | .asked _ (.subscribe slot _) (.number _) => some slot
  | .asked _ (.unsubscribe slot) _ => some slot
  | .asked _ (.discard slot) _ => some slot
  | _ => none

/-- The slots of the subscriptions that were made, the latest first as in the log. -/
def madeIn (es : List (Event L V)) : List String := es.filterMap Event.made?

/-- Of all that happened, the latest first: the subscription with this number was made in this slot,
and nothing that came later ended what was in the slot. -/
def Stands (es : List (Event L V)) (slot : String) (i : Nat) : Prop :=
  ∃ later e earlier, es = later ++ e :: earlier ∧ e.made? = some slot ∧
    (madeIn earlier).length = i ∧ ∀ x ∈ later, x.ended? ≠ some slot

variable {e : Event L V} {es : List (Event L V)} {slot : String} {i : Nat}

theorem Event.made?_of_ended?_none (h : e.ended? = none) : e.made? = none := by
  unfold Event.ended? at h
  unfold Event.made?
  split
  · simp at h
  · rfl

theorem madeIn_cons_none (h : e.made? = none) : madeIn (e :: es) = madeIn es :=
  List.filterMap_cons_none h

theorem madeIn_cons_some (h : e.made? = some slot) : madeIn (e :: es) = slot :: madeIn es :=
  List.filterMap_cons_some h

/-- One more event: it made the subscription, or it did not end it. -/
theorem stands_cons : Stands (e :: es) slot i ↔
    e.made? = some slot ∧ (madeIn es).length = i ∨ e.ended? ≠ some slot ∧ Stands es slot i := by
  constructor
  · rintro ⟨later, x, earlier, whole, made, number, kept⟩
    cases later with
    | nil =>
      obtain ⟨rfl, rfl⟩ := List.cons.inj whole
      exact .inl ⟨made, number⟩
    | cons y later =>
      obtain ⟨rfl, rfl⟩ := List.cons.inj whole
      exact .inr ⟨kept _ List.mem_cons_self,
        later, x, earlier, rfl, made, number, fun z hz => kept z (List.mem_cons_of_mem _ hz)⟩
  · rintro (⟨made, number⟩ | ⟨kept, later, x, earlier, rfl, made, number, rest⟩)
    · exact ⟨[], e, es, rfl, made, number, by simp⟩
    · refine ⟨e :: later, x, earlier, rfl, made, number, fun z hz => ?_⟩
      rcases List.mem_cons.1 hz with rfl | hz
      · exact kept
      · exact rest z hz

@[simp] theorem not_stands_nil : ¬ Stands ([] : List (Event L V)) slot i := by
  rintro ⟨later, e, earlier, whole, -⟩
  simp at whole

instance Stands.decidable (slot : String) (i : Nat) :
    (es : List (Event L V)) → Decidable (Stands es slot i)
  | [] => .isFalse not_stands_nil
  | e :: es =>
    have := Stands.decidable slot i es
    decidable_of_iff (e.made? = some slot ∧ (madeIn es).length = i ∨
      e.ended? ≠ some slot ∧ Stands es slot i) stands_cons.symm

theorem stands_cons_of_quiet (h : e.ended? = none) :
    Stands (e :: es) slot i ↔ Stands es slot i := by
  rw [stands_cons, Event.made?_of_ended?_none h, h]
  simp

theorem filter_ne_eq_erase {is : List Nat} (once : is.Nodup) (i : Nat) :
    is.filter (· ≠ i) = is.erase i := by
  rw [once.erase_eq_filter]
  refine List.filter_congr fun j _ => ?_
  by_cases hj : j = i <;> simp [hj]

/-- What goes from the slots goes from their values, if those differ as the keys do. -/
theorem Keyed.map_snd_remove {K W : Type} [DecidableEq K] [DecidableEq W] {k : K} {v : W}
    {m : Keyed K W} (keys : (m.map Prod.fst).Nodup) (values : (m.map Prod.snd).Nodup)
    (h : m.lookup k = some v) :
    (Keyed.remove k m).map Prod.snd = (m.map Prod.snd).filter (· ≠ v) := by
  rw [List.filter_map, Keyed.remove]
  congr 1
  refine List.filter_congr fun q hq => ?_
  have same : q.1 = k ↔ q.2 = v := by
    constructor
    · rintro rfl
      exact Option.some.inj ((Keyed.lookup_of_mem keys hq).symm.trans h)
    · intro hv
      have hqk : q = (k, v) :=
        List.inj_on_of_nodup_map values hq (Keyed.mem_of_lookup h) hv
      rw [hqk]
  simp [same]

namespace Hub

variable {h g : Hub L V}

/-- The names of all listeners that ever came, which are the slots that they came for. -/
def names (h : Hub L V) : List String := h.store.subscribers.map (·.name)

@[simp] theorem length_names (h : Hub L V) : h.names.length = h.store.subscribers.length := by
  simp [names]

theorem names_alter (h : Hub L V) (i : Nat) (f : L → L) : (h.alter i f).names = h.names := by
  unfold names alter Store.alter
  generalize h.store.subscribers = xs
  induction xs generalizing i with
  | nil => simp
  | cons x xs ih => cases i <;> simp [ih]

/-- The slots hold the standing subscriptions in the order in which they were made, and the
listeners are theirs and those whose subscriptions are lost. -/
structure Accounted (lost : List Nat) (h : Hub L V) : Prop where
  made : h.names = (madeIn h.log).reverse
  standing : ∀ slot i, Stands h.log slot i ↔ (slot, i) ∈ h.slots
  distinct : (h.slots.map Prod.fst).Nodup
  inOrder : (h.slots.map Prod.snd).Pairwise (· < ·)
  below : SlotsKnown h
  ranked : h.store.listeners.Pairwise (· < ·)
  known : ∀ i ∈ h.store.listeners, i < h.store.subscribers.length
  listeners : h.isAlive = true → h.store.listeners.Perm (h.slots.map Prod.snd ++ lost)

variable {lost : List Nat}

theorem accounted_empty (p : Bool) : Accounted [] ({ isPinned := p } : Hub L V) where
  made := rfl
  standing slot i := by simp
  distinct := .nil
  inOrder := .nil
  below q hq := by cases hq
  ranked := .nil
  known i hi := by cases hi
  listeners _ := .nil

namespace Accounted

theorem length_madeIn (a : Accounted lost h) :
    (madeIn h.log).length = h.store.subscribers.length := by
  rw [← List.length_reverse, ← a.made, length_names]

/-- No listener has two subscriptions, lost ones included. -/
theorem nodup (a : Accounted lost h) (alive : h.isAlive = true) :
    (h.slots.map Prod.snd ++ lost).Nodup :=
  (a.listeners alive).nodup (a.ranked.imp Nat.ne_of_lt)

theorem lookup_iff (a : Accounted lost h) :
    h.slots.lookup slot = some i ↔ Stands h.log slot i := by
  rw [a.standing]
  exact ⟨Keyed.mem_of_lookup, Keyed.lookup_of_mem a.distinct⟩

theorem mem_slots_iff (a : Accounted lost h) :
    i ∈ h.slots.map Prod.snd ↔ ∃ slot, Stands h.log slot i := by
  rw [List.mem_map]
  constructor
  · rintro ⟨q, hq, rfl⟩
    exact ⟨q.1, (a.standing _ _).2 hq⟩
  · rintro ⟨slot, hi⟩
    exact ⟨_, (a.standing slot i).1 hi, rfl⟩

end Accounted

theorem isAlive_of_isOpen (ho : h.isOpen = true) : h.isAlive = true := by
  simp [isAlive, ho]

/-! ## What no subscription comes or goes by -/

/-- Nothing was done to subscriptions on the way from `h` to `g`. -/
structure Spared (h g : Hub L V) : Prop where
  slots : g.slots = h.slots
  listeners : g.store.listeners = h.store.listeners
  names : g.names = h.names
  log : ∃ es, g.log = es ++ h.log ∧ ∀ e ∈ es, e.ended? = none
  alive : g.isAlive = true → h.isAlive = true

namespace Spared

theorem of_log (hs : g.slots = h.slots) (hl : g.store.listeners = h.store.listeners)
    (hn : g.names = h.names) (hlog : g.log = h.log)
    (ha : g.isAlive = true → h.isAlive = true) : Spared h g :=
  ⟨hs, hl, hn, ⟨[], hlog, by simp⟩, ha⟩

theorem of_quiet {e : Event L V} (hs : g.slots = h.slots)
    (hl : g.store.listeners = h.store.listeners)
    (hn : g.names = h.names) (hlog : g.log = e :: h.log)
    (he : e.ended? = none) (ha : g.isAlive = true → h.isAlive = true) : Spared h g :=
  ⟨hs, hl, hn, ⟨[e], hlog, by simpa using he⟩, ha⟩

theorem trans {m : Hub L V} (a : Spared h m) (b : Spared m g) : Spared h g where
  slots := b.slots.trans a.slots
  listeners := b.listeners.trans a.listeners
  names := b.names.trans a.names
  log := by
    obtain ⟨es, hes, quiet⟩ := a.log
    obtain ⟨fs, hfs, quiet'⟩ := b.log
    refine ⟨fs ++ es, by rw [hfs, hes, List.append_assoc], fun e he => ?_⟩
    exact (List.mem_append.1 he).elim (quiet' e) (quiet e)
  alive ha := a.alive (b.alive ha)

theorem alter (h : Hub L V) (i : Nat) (f : L → L) : Spared h (h.alter i f) :=
  of_log rfl rfl (names_alter h i f) rfl id

theorem note (h : Hub L V) {e : Event L V} (he : e.ended? = none) : Spared h (h.note e) :=
  of_quiet rfl rfl rfl rfl he id

/-- What a request does that no subscription comes or goes by. -/
theorem serve {r : Request L V} (heard : r.needsStore = true → h.isOpen = true)
    (hr : r.vacated? = none) : Spared h (h.serve r).1 := by
  cases r with
  | subscribe slot l => cases hr
  | unsubscribe slot => cases hr
  | discard slot => cases hr
  | issue tag => exact of_log rfl rfl rfl rfl fun _ => isAlive_of_isOpen (heard rfl)
  | write tag o => exact of_quiet rfl rfl rfl rfl rfl fun _ => isAlive_of_isOpen (heard rfl)
  | writeAt tag k o =>
    simp only [Hub.serve]
    split
    · rename_i g e
      rw [(eq_land_of_writeAt? e).2]
      exact of_quiet rfl rfl rfl rfl rfl fun _ => isAlive_of_isOpen (heard rfl)
    · exact of_log rfl rfl rfl rfl id
  | release =>
    refine of_log rfl rfl rfl rfl fun ha => ?_
    simp only [Hub.serve, isAlive, isOpen, Bool.false_or, Bool.or_eq_true] at ha ⊢
    exact ha.imp_left .inr
  | _ => exact of_log rfl rfl rfl rfl id

end Spared

theorem Accounted.spared (a : Accounted lost h) (s : Spared h g) : Accounted lost g := by
  obtain ⟨es, hlog, quiet⟩ := s.log
  have made : madeIn g.log = madeIn h.log := by
    rw [hlog, madeIn, List.filterMap_append, List.filterMap_eq_nil_iff.2, List.nil_append, madeIn]
    exact fun e he => Event.made?_of_ended?_none (quiet e he)
  have standing (slot : String) (i : Nat) : Stands g.log slot i ↔ Stands h.log slot i := by
    rw [hlog]
    clear hlog
    induction es with
    | nil => rfl
    | cons e es ih =>
      rw [List.cons_append, stands_cons_of_quiet (quiet e List.mem_cons_self),
        ih fun x hx => quiet x (List.mem_cons_of_mem e hx)]
  exact {
    made := by rw [made, s.names, a.made]
    standing := fun slot i => by rw [standing, s.slots, a.standing]
    distinct := s.slots ▸ a.distinct
    inOrder := s.slots ▸ a.inOrder
    below := fun q hq => by
      rw [← length_names g, s.names, length_names h]
      exact a.below q (s.slots ▸ hq)
    ranked := s.listeners ▸ a.ranked
    known := fun i hi => by
      rw [← length_names g, s.names, length_names h]
      exact a.known i (s.listeners ▸ hi)
    listeners := fun ha => by
      rw [s.listeners, s.slots]
      exact a.listeners (s.alive ha) }

/-! ## Subscriptions that come and go -/

theorem slots_vacate (h : Hub L V) (slot : String) :
    (h.vacate slot).1.slots = Keyed.remove slot h.slots := by
  unfold vacate
  split
  · rfl
  · rename_i hn
    exact (Keyed.remove_of_notMem (Keyed.notMem_of_lookup hn)).symm

theorem slots_fill (h : Hub L V) (slot : String) (l : L) :
    (h.fill slot l).slots
      = Keyed.remove slot h.slots ++ [(slot, h.store.subscribers.length)] := by
  have hs : (h.fill slot l).slots = Keyed.put slot h.store.subscribers.length
      ((h.subscribe slot l).vacate slot).1.slots := rfl
  rw [hs, slots_vacate]
  exact Keyed.put_of_notMem _ _ _
    (Keyed.notMem_of_lookup (Keyed.lookup_remove_self slot h.slots))

theorem isAlive_of_vacate (slot : String) (ha : (h.vacate slot).1.isAlive = true) :
    h.isAlive = true := by
  by_contra hd
  rw [Bool.not_eq_true] at hd
  obtain ⟨s, q, he⟩ := vacate_eq h slot
  have hs := store_vacate_of_gone hd slot
  rw [he] at ha hs
  obtain rfl : s = h.store := hs
  exact Bool.noConfusion (ha.symm.trans hd)

theorem sublist_listeners_vacate (h : Hub L V) (slot : String) :
    (h.vacate slot).1.store.listeners.Sublist h.store.listeners := by
  unfold vacate
  split
  · unfold detach
    split
    · exact List.filter_sublist
    · exact .refl _
  · exact .refl _

/-- The one that a slot held is no longer registered, and the rest are. -/
theorem listeners_vacate_of {extra : List Nat} (a : Accounted lost h) {m : Hub L V}
    (hs : m.slots = h.slots) (alive : m.isAlive = true)
    (hl : m.store.listeners.Perm (h.slots.map Prod.snd ++ extra)) {slot : String}
    (others : ∀ i, h.slots.lookup slot = some i → i ∉ extra) :
    (m.vacate slot).1.store.listeners.Perm
      ((Keyed.remove slot h.slots).map Prod.snd ++ extra) := by
  cases hk : h.slots.lookup slot with
  | none =>
    have hv : m.vacate slot = (m, false) := by simp [vacate, hs, hk]
    rw [hv, Keyed.remove_of_notMem (Keyed.notMem_of_lookup hk)]
    exact hl
  | some i =>
    have rest : extra.filter (· ≠ i) = extra := by
      refine List.filter_eq_self.2 fun j hj => decide_eq_true ?_
      rintro rfl
      exact others j hk hj
    rw [listeners_vacate (hs ▸ hk) alive,
      Keyed.map_snd_remove a.distinct (a.inOrder.imp Nat.ne_of_lt) hk]
    have left := hl.filter (· ≠ i)
    rwa [List.filter_append, rest] at left

theorem distinct_remove (a : Accounted lost h) (slot : String) :
    ((Keyed.remove slot h.slots).map Prod.fst).Nodup :=
  a.distinct.sublist (List.filter_sublist.map _)

theorem inOrder_remove (a : Accounted lost h) (slot : String) :
    ((Keyed.remove slot h.slots).map Prod.snd).Pairwise (· < ·) :=
  a.inOrder.sublist (List.filter_sublist.map _)

/-- A subscription ends. -/
theorem Accounted.vacate (a : Accounted lost h) {e : Event L V} {slot : String}
    (made : e.made? = none) (ended : e.ended? = some slot) :
    Accounted lost ((h.vacate slot).1.note e) := by
  have hlog : ((h.vacate slot).1.note e).log = e :: h.log := congrArg _ (log_vacate h slot)
  have hslots : ((h.vacate slot).1.note e).slots = Keyed.remove slot h.slots :=
    slots_vacate h slot
  have hsub : ((h.vacate slot).1.note e).store.subscribers = h.store.subscribers :=
    subscribers_vacate h slot
  exact {
    made := by rw [hlog, madeIn_cons_none made, ← a.made, names, hsub, names]
    standing := fun s i => by
      rw [hlog, hslots, stands_cons, made, ended, Keyed.mem_remove, ← a.standing]
      simp [and_comm, eq_comm]
    distinct := hslots ▸ distinct_remove a slot
    inOrder := hslots ▸ inOrder_remove a slot
    below := fun q hq => by
      rw [hsub]
      exact a.below q (mem_slots_vacate hq)
    ranked := a.ranked.sublist (sublist_listeners_vacate h slot)
    known := fun i hi => by
      rw [hsub]
      exact a.known i ((sublist_listeners_vacate h slot).subset hi)
    listeners := fun ha => by
      have alive : h.isAlive = true := isAlive_of_vacate slot ha
      rw [hslots]
      exact listeners_vacate_of a rfl alive (a.listeners alive) fun i hi hl =>
        (List.nodup_append.1 (a.nodup alive)).2.2 i
          (List.mem_map.2 ⟨_, Keyed.mem_of_lookup hi, rfl⟩) i hl rfl }

/-- A subscription is made, in the place of what was in its slot. -/
theorem Accounted.fill (a : Accounted lost h) (ho : h.isOpen = true) {e : Event L V}
    {slot : String} (made : e.made? = some slot) (ended : e.ended? = some slot) (l : L) :
    Accounted lost ((h.fill slot l).note e) := by
  have hlog : ((h.fill slot l).note e).log = e :: h.log :=
    congrArg _ (log_vacate (h.subscribe slot l) slot)
  have hslots : ((h.fill slot l).note e).slots
      = Keyed.remove slot h.slots ++ [(slot, h.store.subscribers.length)] := slots_fill h slot l
  have hsub : ((h.fill slot l).note e).store.subscribers = h.store.subscribers ++ [⟨slot, l⟩] :=
    subscribers_fill h slot l
  have came : (h.subscribe slot l).store.listeners.Pairwise (· < ·) := by
    refine List.pairwise_append.2 ⟨a.ranked, List.pairwise_singleton _ _, fun i hi j hj => ?_⟩
    obtain rfl := List.mem_singleton.1 hj
    exact a.known i hi
  exact {
    made := by
      rw [hlog, madeIn_cons_some made, List.reverse_cons, ← a.made, names, hsub, List.map_append]
      rfl
    standing := fun s i => by
      rw [hlog, hslots, stands_cons, made, ended, a.length_madeIn, a.standing, List.mem_append,
        Keyed.mem_remove]
      simp only [List.mem_singleton, Prod.mk.injEq, Option.some.injEq, ne_eq]
      constructor
      · rintro (⟨rfl, rfl⟩ | ⟨other, hq⟩)
        · exact .inr ⟨rfl, rfl⟩
        · exact .inl ⟨hq, Ne.symm other⟩
      · rintro (⟨hq, other⟩ | ⟨rfl, rfl⟩)
        · exact .inr ⟨Ne.symm other, hq⟩
        · exact .inl ⟨rfl, rfl⟩
    distinct := by
      have fresh := Keyed.notMem_of_lookup (Keyed.lookup_remove_self slot h.slots)
      rw [hslots, List.map_append, List.nodup_append]
      refine ⟨distinct_remove a slot, by simp, ?_⟩
      rintro s hs t ht rfl
      obtain rfl : s = slot := by simpa using ht
      exact fresh hs
    inOrder := by
      rw [hslots, List.map_append, List.pairwise_append]
      refine ⟨inOrder_remove a slot, by simp, ?_⟩
      intro i hi j hj
      obtain ⟨q, hq, rfl⟩ := List.mem_map.1 hi
      obtain rfl : j = h.store.subscribers.length := by simpa using hj
      exact a.below q (Keyed.mem_remove.1 hq).1
    below := fun q hq => by
      rw [hsub, List.length_append, List.length_singleton]
      rw [hslots, List.mem_append] at hq
      rcases hq with hq | hq
      · exact Nat.lt_succ_of_lt (a.below q (Keyed.mem_remove.1 hq).1)
      · obtain rfl := List.mem_singleton.1 hq
        exact Nat.lt_succ_self _
    ranked := came.sublist (sublist_listeners_vacate (h.subscribe slot l) slot)
    known := fun i hi => by
      rw [hsub, List.length_append, List.length_singleton]
      have hi := (sublist_listeners_vacate (h.subscribe slot l) slot).subset hi
      rcases List.mem_append.1 hi with hi | hi
      · exact Nat.lt_succ_of_lt (a.known i hi)
      · obtain rfl := List.mem_singleton.1 hi
        exact Nat.lt_succ_self _
    listeners := fun _ => by
      have alive : h.isAlive = true := isAlive_of_isOpen ho
      have alive' : (h.subscribe slot l).isAlive = true := isAlive_of_isOpen ho
      have whole : (h.subscribe slot l).store.listeners.Perm
          (h.slots.map Prod.snd ++ (h.store.subscribers.length :: lost)) :=
        ((a.listeners alive).append_right _).trans (by
          rw [List.append_assoc]
          exact (List.perm_append_singleton _ lost).append_left _)
      rw [hslots, List.map_append, List.append_assoc]
      refine listeners_vacate_of a (m := h.subscribe slot l) rfl alive' whole fun i hi hl => ?_
      have filled := Keyed.mem_of_lookup hi
      rcases List.mem_cons.1 hl with rfl | hl
      · exact Nat.lt_irrefl _ (a.below _ filled)
      · exact (List.nodup_append.1 (a.nodup alive)).2.2 i (List.mem_map.2 ⟨_, filled, rfl⟩) i hl
          rfl }

/-- A request that is not heard is only noted. -/
theorem perform_of_unheard {r : Request L V} (needs : r.needsStore = true)
    (shut : h.isOpen = false) (asker : Option Nat) :
    (h.perform asker r).1 = h.note (.asked asker r .gone) := by
  simp [Hub.perform, needs, shut]

theorem Accounted.perform (a : Accounted lost h) (asker : Option Nat) (r : Request L V) :
    Accounted lost (h.perform asker r).1 := by
  by_cases heard : r.needsStore = true → h.isOpen = true
  · rw [perform_of_heard heard]
    cases hr : r.vacated? with
    | none =>
      have quiet (x : Answer V) : (Event.asked asker r x).ended? = none := by
        cases r <;> first | rfl | cases hr
      exact a.spared ((Spared.serve heard hr).trans (.note _ (quiet _)))
    | some slot =>
      cases r with
      | subscribe s l => exact a.fill (heard rfl) rfl rfl l
      | unsubscribe s => exact a.vacate rfl rfl
      | discard s => exact a.vacate rfl rfl
      | _ => cases hr
  · rw [Classical.not_imp, Bool.not_eq_true] at heard
    obtain ⟨needs, shut⟩ := heard
    rw [perform_of_unheard needs shut]
    refine a.spared (.note h ?_)
    cases r <;> first | rfl | cases needs

/-! ## Listeners of standing subscriptions -/

/-- To end a subscription is to vacate its slot. -/
theorem store_perform_of_detached {r : Request L V} {slot : String} (hr : r.detached? = some slot)
    (asker : Option Nat) : (h.perform asker r).1.store = (h.vacate slot).1.store := by
  cases r with
  | unsubscribe s =>
    obtain rfl := Option.some.inj hr
    rfl
  | discard s =>
    obtain rfl := Option.some.inj hr
    rfl
  | _ => cases hr

/-- How the listeners of a hub answer to the subscriptions that stand, where the subscriptions of
some listeners are lost. -/
structure Registered (lost : List Nat) (h : Hub L V) : Prop where
  /-- Listeners are numbered in the order in which their subscriptions were made. -/
  made : h.names = (madeIn h.log).reverse
  /-- The listener with the number of a subscription is the one that came for its slot. -/
  named : ∀ slot i, Stands h.log slot i → h.names[i]? = some slot
  below : ∀ slot i, Stands h.log slot i → i < h.store.subscribers.length
  /-- No two subscriptions that stand share a number, nor a slot. -/
  number : ∀ s t i, Stands h.log s i → Stands h.log t i → s = t
  slot : ∀ s i j, Stands h.log s i → Stands h.log s j → i = j
  /-- While the store lives, those who are registered are those whose subscriptions stand or are
  lost, in the order in which these were made and each once. -/
  listeners : h.isAlive = true →
    ∀ i, i ∈ h.store.listeners ↔ (∃ slot, Stands h.log slot i) ∨ i ∈ lost
  inOrder : h.store.listeners.Pairwise (· < ·)
  known : ∀ i ∈ h.store.listeners, i < h.store.subscribers.length
  count : h.isAlive = true →
    h.store.count = {q : String × Nat | Stands h.log q.1 q.2}.ncard + lost.length
  /-- Of a lost subscription nothing stands. -/
  lost : h.isAlive = true → ∀ i ∈ lost, ∀ slot, ¬ Stands h.log slot i
  /-- To end a subscription that stands takes out its own listener and changes nothing else. -/
  detached : h.isAlive = true → ∀ asker r slot i, r.detached? = some slot →
    Stands h.log slot i →
    (h.perform asker r).1.store = { h.store with listeners := h.store.listeners.erase i }
  /-- To end one that does not stand, or any after the end of the store, changes nothing. -/
  spent : ∀ asker r slot, r.detached? = some slot →
    h.isAlive = false ∨ (∀ i, ¬ Stands h.log slot i) → (h.perform asker r).1.store = h.store

theorem Accounted.registered (a : Accounted lost h) : Registered lost h where
  made := a.made
  named slot i hi := by
    obtain ⟨later, e, earlier, whole, made, rfl, -⟩ := hi
    have order : (madeIn h.log).reverse
        = (madeIn earlier).reverse ++ slot :: (madeIn later).reverse := by
      rw [whole, madeIn, List.filterMap_append, List.filterMap_cons_some made]
      simp [madeIn]
    rw [a.made, order]
    simp
  below slot i hi := a.below _ ((a.standing slot i).1 hi)
  number s t i hs ht := by
    have keyed := List.inj_on_of_nodup_map (a.inOrder.imp Nat.ne_of_lt)
      ((a.standing s i).1 hs) ((a.standing t i).1 ht) rfl
    exact (Prod.mk.inj keyed).1
  slot s i j hi hj := by
    have keyed := List.inj_on_of_nodup_map a.distinct
      ((a.standing s i).1 hi) ((a.standing s j).1 hj) rfl
    exact (Prod.mk.inj keyed).2
  listeners alive i := by
    rw [(a.listeners alive).mem_iff, List.mem_append, a.mem_slots_iff]
  inOrder := a.ranked
  known := a.known
  count alive := by
    have standing : {q : String × Nat | Stands h.log q.1 q.2} = ↑h.slots.toFinset := by
      ext q
      simp [a.standing]
    rw [standing, Set.ncard_coe_finset, List.toFinset_card_of_nodup a.distinct.of_map, Store.count,
      (a.listeners alive).length_eq, List.length_append, List.length_map]
  lost alive i hi slot stands :=
    (List.nodup_append.1 (a.nodup alive)).2.2 i (a.mem_slots_iff.2 ⟨slot, stands⟩) i hi rfl
  detached alive asker r slot i hr hi := by
    have found : h.slots.lookup slot = some i := a.lookup_iff.2 hi
    have once : h.store.listeners.Nodup := a.ranked.imp Nat.ne_of_lt
    rw [store_perform_of_detached hr, ← filter_ne_eq_erase once]
    simp only [Hub.vacate, found, detach, alive, if_true, Store.detach]
  spent asker r slot hr idle := by
    rw [store_perform_of_detached hr]
    rcases idle with gone | unheld
    · exact store_vacate_of_gone gone slot
    · have missing : h.slots.lookup slot = none := by
        rw [Option.eq_none_iff_forall_ne_some]
        exact fun i hi => unheld i (a.lookup_iff.1 hi)
      simp [Hub.vacate, missing]

/-! ## Courses -/

variable [Listener L V]

/-- The steps in which nothing is asked leave subscriptions alone. -/
theorem Spared.step {b : Beat L V} (s : Step h b g) : Spared h g := by
  have alive (hq : h.store.isIdle = false) : h.isAlive = true := by simp [isAlive, hq]
  cases s with
  | start hr hp =>
    exact .of_log rfl rfl rfl rfl fun _ => alive (by simp [Store.isIdle, hp])
  | close hr => exact .of_log rfl rfl rfl rfl fun _ => alive (by simp [Store.isIdle, hr])
  | @call n i waiting hr =>
    have names : (h.call n i waiting).names = h.names := names_alter h i (Listener.hear · n)
    exact .of_quiet rfl rfl names rfl rfl fun _ => alive (by simp [Store.isIdle, hr])
  | pass hr => exact .of_log rfl rfl rfl rfl fun _ => alive (by simp [Store.isIdle, hr])
  | fail message hr =>
    exact .of_quiet rfl rfl rfl rfl rfl fun _ => alive (by simp [Store.isIdle, hr])

end Hub
end SchemaBoard
