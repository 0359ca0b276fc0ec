import Mathlib.Logic.Relation
import SchemaBoard.Store.Settle

/-!
# Traffic of a hub

What the log tells of the notices: those that landed, and those that each listener heard. Whatever
is asked of a hub comes down to a few deeds, so an invariant of a hub is a fact that every deed
keeps and every step on the notices' way.
-/
namespace SchemaBoard

variable {L V : Type}

def Event.landed? : Event L V → Option (Notice V)
  | .stored n => some n
  | _ => none

def Event.heard? (i : Nat) : Event L V → Option (Notice V)
  | .called j n => if j = i then some n else none
  | _ => none

/-- The last notice under a tag. -/
def lastUnder (tag : String) (ns : List (Notice V)) : Option (Notice V) :=
  (ns.filter (·.tag = tag)).getLast?

@[simp] theorem lastUnder_append_self (ns : List (Notice V)) (n : Notice V) :
    lastUnder n.tag (ns ++ [n]) = some n := by
  simp [lastUnder, List.filter_append]

theorem lastUnder_append_of_ne (ns : List (Notice V)) {n : Notice V} {tag : String}
    (h : n.tag ≠ tag) : lastUnder tag (ns ++ [n]) = lastUnder tag ns := by
  simp [lastUnder, List.filter_append, h]

theorem lastUnder_cons (tag : String) (n : Notice V) (ns : List (Notice V)) :
    lastUnder tag (n :: ns) = (lastUnder tag ns).or (if n.tag = tag then some n else none) := by
  by_cases h : n.tag = tag <;> simp [lastUnder, h, List.getLast?_cons]

theorem lastUnder_eq_none_iff (tag : String) (ns : List (Notice V)) :
    lastUnder tag ns = none ↔ ∀ n ∈ ns, n.tag ≠ tag := by
  simp [lastUnder]

/-- What deeds may reach: the listeners that may be taken out, those that may come in, how a
listener may change, and the tags under which entries may land. -/
structure Permit (L : Type) where
  leave : Nat → Prop := fun _ => True
  join : L → Prop := fun _ => True
  change : (L → L) → Prop := fun _ => True
  land : String → Prop := fun _ => True

def Request.Within (p : Permit L) : Request L V → Prop
  | .subscribe _ l => p.join l
  | .write tag _ => p.land tag
  | .writeAt tag _ _ => p.land tag
  | _ => True

/-- The tag under which a request issues a number. -/
def Request.issued? : Request L V → Option String
  | .issue tag => some tag
  | .write tag _ => some tag
  | _ => none

/-- The tag under which a request lets an entry land, unless it is refused. -/
def Request.landing? : Request L V → Option String
  | .write tag _ => some tag
  | .writeAt tag _ _ => some tag
  | _ => none

namespace Hub

/-- The notices that have landed, the earliest first. -/
def landed (h : Hub L V) : List (Notice V) := (h.log.filterMap Event.landed?).reverse

/-- The notices that a listener was told of, the earliest first. -/
def heard (h : Hub L V) (i : Nat) : List (Notice V) := (h.log.filterMap (Event.heard? i)).reverse

/-- The notice on its way and those in line behind it. -/
def line (h : Hub L V) : List (Notice V) :=
  (h.store.round.map (·.notice)).toList ++ h.store.pending

/-- The number of notices whose way is over. Writes are numbered from zero as they land, so this is
the number of the write whose notice is on its way or goes next. -/
def turn (h : Hub L V) : Nat := h.landed.length - h.line.length

@[simp] theorem landed_land (h : Hub L V) (n : Notice V) : (h.land n).landed = h.landed ++ [n] := by
  simp [landed, land, Event.landed?]

@[simp] theorem heard_land (h : Hub L V) (n : Notice V) : (h.land n).heard = h.heard := rfl

@[simp] theorem line_land (h : Hub L V) (n : Notice V) : (h.land n).line = h.line ++ [n] := by
  simp [line, land, Store.land]

/-! ## Deeds -/

/-- What may be done to a hub, one thing at a time. -/
inductive Deed (p : Permit L) : Hub L V → Hub L V → Prop where
  | subscribe (h : Hub L V) (name : String) {l : L} (hl : p.join l) :
      Deed p h (h.subscribe name l)
  | detach (h : Hub L V) {i : Nat} (hi : p.leave i) :
      Deed p h { h with store := h.store.detach i }
  | issue (h : Hub L V) (tag : String) : Deed p h (h.issue tag)
  | land (h : Hub L V) {n : Notice V} (hn : p.land n.tag) : Deed p h (h.land n)
  | alter (h : Hub L V) (i : Nat) {f : L → L} (hf : p.change f) : Deed p h (h.alter i f)
  /-- Whatever concerns neither the store nor the notices. -/
  | aside {h g : Hub L V} (hs : g.store = h.store) (hl : g.landed = h.landed)
      (hh : g.heard = h.heard) (hp : g.isPinned = h.isPinned) : Deed p h g

abbrev Deeds (p : Permit L) : Hub L V → Hub L V → Prop := Relation.ReflTransGen (Deed p)

theorem deeds_detach (p : Permit L) (h : Hub L V) {i : Nat} (hi : p.leave i) :
    Deeds p h (h.detach i) := by
  unfold detach
  split
  · exact .single (.detach h hi)
  · exact .refl

theorem deeds_vacate (p : Permit L) (h : Hub L V) (slot : String)
    (hs : ∀ q ∈ h.slots, p.leave q.2) : Deeds p h (h.vacate slot).1 := by
  unfold vacate
  split
  · rename_i i hi
    exact (deeds_detach p h (hs _ (Keyed.mem_of_lookup hi))).tail (.aside rfl rfl rfl rfl)
  · exact .refl

theorem deeds_fill (p : Permit L) (h : Hub L V) (slot : String) {l : L} (hl : p.join l)
    (hs : ∀ q ∈ h.slots, p.leave q.2) : Deeds p h (h.fill slot l) := by
  have hv : Deeds p (h.subscribe slot l) ((h.subscribe slot l).vacate slot).1 :=
    deeds_vacate p _ slot hs
  have hsub : Deeds p h (h.subscribe slot l) := .single (.subscribe h slot hl)
  exact (hsub.trans hv).tail (.aside rfl rfl rfl rfl)

theorem deeds_write (p : Permit L) (h : Hub L V) {tag : String} (o : Outcome V) (ht : p.land tag) :
    Deeds p h (h.write tag o) :=
  (Relation.ReflTransGen.single (.issue h tag)).tail (.land _ ht)

theorem eq_land_of_writeAt? {h g : Hub L V} {tag : String} {k : Nat} {o : Outcome V}
    (e : h.writeAt? tag k o = some g) :
    k = h.store.latest tag ∧ g = h.land ⟨tag, k, o⟩ := by
  unfold writeAt? at e
  split at e
  · exact ⟨‹_›, (Option.some.inj e).symm⟩
  · cases e

theorem deeds_serve (p : Permit L) (h : Hub L V) {r : Request L V} (hr : r.Within p)
    (hs : ∀ q ∈ h.slots, p.leave q.2) : Deeds p h (h.serve r).1 := by
  cases r with
  | subscribe slot l => exact deeds_fill p h slot hr hs
  | unsubscribe slot => exact deeds_vacate p h slot hs
  | discard slot => exact deeds_vacate p h slot hs
  | issue tag => exact .single (.issue h tag)
  | write tag o => exact deeds_write p h o hr
  | writeAt tag k o =>
    simp only [serve]
    split
    · rename_i g e
      rw [(eq_land_of_writeAt? e).2]
      exact .single (.land h hr)
    · exact .refl
  | release => exact .single (.aside rfl rfl rfl rfl)
  | _ => exact .refl

theorem perform_fst (h : Hub L V) (asker : Option Nat) (r : Request L V) :
    ∃ g a, (h.perform asker r).1 = g.note (.asked asker r a) ∧ (g = h ∨ g = (h.serve r).1) := by
  unfold perform
  split
  rename_i g a e
  refine ⟨g, a, rfl, ?_⟩
  split at e
  · exact .inl (Prod.ext_iff.1 e).1.symm
  · exact .inr (Prod.ext_iff.1 e).1.symm

/-- A request that the store need not be asked for, or that finds it open, is carried out. -/
theorem perform_of_heard {h : Hub L V} {r : Request L V}
    (heard : r.needsStore = true → h.isOpen = true) (asker : Option Nat) :
    h.perform asker r = ((h.serve r).1.note (.asked asker r (h.serve r).2), (h.serve r).2) := by
  have pass : (r.needsStore && !h.isOpen) = false := by
    cases hn : r.needsStore
    · rfl
    · simp [heard hn]
  simp [perform, pass]

/-- A request comes down to deeds that the request itself names, or that end subscriptions which
are kept in slots. -/
theorem deeds_perform (p : Permit L) (h : Hub L V) (asker : Option Nat) {r : Request L V}
    (hr : r.Within p) (hs : ∀ q ∈ h.slots, p.leave q.2) : Deeds p h (h.perform asker r).1 := by
  obtain ⟨g, a, e, he⟩ := perform_fst h asker r
  have hg : Deeds p h g := by
    rcases he with rfl | rfl
    · exact .refl
    · exact deeds_serve p h hr hs
  rw [e]
  exact hg.tail (.aside rfl rfl rfl rfl)

/-- What every deed keeps is kept by all of them. -/
theorem Deeds.keep {p : Permit L} {P : Hub L V → Prop}
    (hP : ∀ h g, Deed p h g → P h → P g) {h g : Hub L V} (d : Deeds p h g) (hh : P h) : P g := by
  induction d with
  | refl => exact hh
  | tail _ d ih => exact hP _ _ d ih

/-! ## Slots and numbers -/

@[simp] theorem slots_detach (h : Hub L V) (i : Nat) : (h.detach i).slots = h.slots := by
  unfold detach
  split <;> rfl

@[simp] theorem issued_detach (h : Hub L V) (i : Nat) :
    (h.detach i).store.issued = h.store.issued := by
  unfold detach
  split <;> rfl

@[simp] theorem issued_vacate (h : Hub L V) (slot : String) :
    (h.vacate slot).1.store.issued = h.store.issued := by
  unfold vacate
  split <;> simp

theorem mem_slots_vacate {h : Hub L V} {slot : String} {q : String × Nat}
    (hq : q ∈ (h.vacate slot).1.slots) : q ∈ h.slots := by
  unfold vacate at hq
  split at hq
  · exact (List.mem_filter.1 hq).1
  · exact hq

/-- A slot holds what it held, or the listener that has just come. -/
theorem mem_slots_perform {h : Hub L V} {asker : Option Nat} {r : Request L V} {q : String × Nat}
    (hq : q ∈ (h.perform asker r).1.slots) :
    q ∈ h.slots ∨ q.2 = h.store.subscribers.length ∧
      q.2 < (h.perform asker r).1.store.subscribers.length := by
  obtain ⟨g, a, e, he⟩ := perform_fst h asker r
  rw [e] at hq ⊢
  rcases he with rfl | rfl
  · exact .inl hq
  · cases r with
    | subscribe slot l =>
      rcases Keyed.mem_put hq with hq | rfl
      · exact .inl (mem_slots_vacate (h := h.subscribe slot l) hq)
      · exact .inr ⟨rfl, by simp [note, serve, subscribers_fill]⟩
    | unsubscribe slot => exact .inl (mem_slots_vacate hq)
    | discard slot => exact .inl (mem_slots_vacate hq)
    | writeAt tag k o =>
      simp only [serve] at hq
      split at hq
      · rename_i g e
        rw [(eq_land_of_writeAt? e).2] at hq
        exact .inl hq
      · exact .inl hq
    | _ => exact .inl hq

theorem latest_eq_of_issued {h g : Hub L V} (e : g.store.issued = h.store.issued) (t : String) :
    g.store.latest t = h.store.latest t := by
  simp [Store.latest, e]

theorem latest_issue (h : Hub L V) (tag t : String) :
    (h.issue tag).store.latest t = h.store.latest t + if some tag = some t then 1 else 0 := by
  by_cases ht : t = tag
  · subst ht
    simp [issue]
  · simp [issue, Store.latest_issue_of_ne _ ht, Ne.symm ht]

/-- Of all requests to an open store, exactly those that say so issue a number. -/
theorem latest_perform {h : Hub L V} (ho : h.isOpen = true) (asker : Option Nat)
    (r : Request L V) (t : String) :
    (h.perform asker r).1.store.latest t
      = h.store.latest t + if r.issued? = some t then 1 else 0 := by
  have hp : (h.perform asker r).1.store = (h.serve r).1.store := by
    rw [perform_of_heard fun _ => ho]
    rfl
  rw [hp]
  cases r with
  | subscribe slot l =>
    exact latest_eq_of_issued (by simp [serve, fill, subscribe, Store.subscribe]) t
  | unsubscribe slot => exact latest_eq_of_issued (by simp [serve]) t
  | discard slot => exact latest_eq_of_issued (by simp [serve]) t
  | issue tag => exact latest_issue h tag t
  | write tag o => exact latest_issue h tag t
  | writeAt tag k o =>
    simp only [serve]
    split
    · rename_i g e
      rw [(eq_land_of_writeAt? e).2]
      rfl
    · rfl
  | _ => rfl

end Hub
end SchemaBoard
