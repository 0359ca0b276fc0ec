import SchemaBoard.Proofs.Store.Traffic

/-!
# Courses of a hub

A hub takes its course by beats: something is asked of it, or the notices go a step on their way. A
request may come at any moment and from anyone, so a course covers whatever listeners do while they
are told, also what they do together. Main statements: a step asks something or has one of five
forms, and what `drive` does is a course.
-/
namespace SchemaBoard

variable {L V : Type}

/-- What one beat amounts to. Calls carry the number of the write that they tell of. -/
inductive Beat (L V : Type) where
  | asked (asker : Option Nat) (r : Request L V)
  | called (listener write : Nat)
  | failed (listener : Nat)
  | quiet

def Beat.number? (i : Nat) : Beat L V → Option Nat
  | .called j k => if j = i then some k else none
  | _ => none

def Beat.isFailed : Beat L V → Bool
  | .failed _ => true
  | _ => false

/-- The numbers of the writes that a listener is told of, in the order of its calls. -/
def numbers (i : Nat) (bs : List (Beat L V)) : List Nat := bs.filterMap (Beat.number? i)

@[simp] theorem numbers_nil (i : Nat) : numbers i ([] : List (Beat L V)) = [] := rfl

@[simp] theorem numbers_append (i : Nat) (bs cs : List (Beat L V)) :
    numbers i (bs ++ cs) = numbers i bs ++ numbers i cs := by
  simp [numbers]

@[simp] theorem numbers_asked (i : Nat) (asker : Option Nat) (r : Request L V) :
    numbers i [.asked asker r] = [] := rfl

@[simp] theorem numbers_quiet (i : Nat) : numbers i [(.quiet : Beat L V)] = [] := rfl

@[simp] theorem numbers_failed (i j : Nat) : numbers i [(.failed j : Beat L V)] = [] := rfl

theorem numbers_called (i j k : Nat) :
    numbers i [(.called j k : Beat L V)] = if j = i then [k] else [] := by
  by_cases h : j = i <;> simp [numbers, Beat.number?, h]

namespace Hub

variable [Listener L V]

/-- What the next step amounts to. -/
def beat (h : Hub L V) : Beat L V :=
  match h.store.round with
  | some ⟨_, none, i :: _⟩ => .called i h.turn
  | some ⟨_, some i, _⟩ =>
    match (h.store.state? i).bind Listener.intent with
    | some (.ask r) => .asked (some i) r
    | some (.fail _) => .failed i
    | none => .quiet
  | _ => .quiet

/-- The forms of a step in which nothing is asked. -/
inductive Step : Hub L V → Beat L V → Hub L V → Prop where
  | start {h : Hub L V} {n : Notice V} {others : List (Notice V)} (hr : h.store.round = none)
      (hp : h.store.pending = n :: others) : Step h .quiet (h.start n others)
  | close {h : Hub L V} {n : Notice V} (hr : h.store.round = some ⟨n, none, []⟩) :
      Step h .quiet (h.setRound none)
  | call {h : Hub L V} {n : Notice V} {i : Nat} {waiting : List Nat}
      (hr : h.store.round = some ⟨n, none, i :: waiting⟩) :
      Step h (.called i h.turn) (h.call n i waiting)
  | pass {h : Hub L V} {n : Notice V} {i : Nat} {waiting : List Nat}
      (hr : h.store.round = some ⟨n, some i, waiting⟩) :
      Step h .quiet (h.setRound (some ⟨n, none, waiting⟩))
  | fail {h : Hub L V} {n : Notice V} {i : Nat} {waiting : List Nat} (message : String)
      (hr : h.store.round = some ⟨n, some i, waiting⟩) :
      Step h (.failed i) (h.abandon i message)

theorem slots_step {h g : Hub L V} {b : Beat L V} (s : Step h b g) : g.slots = h.slots := by
  cases s <;> rfl

theorem issued_step {h g : Hub L V} {b : Beat L V} (s : Step h b g) :
    g.store.issued = h.store.issued := by
  cases s <;> rfl

/-- In the other form of a step the listener that is being told asks something. -/
structure Asking (h : Hub L V) (i : Nat) (l : L) (r : Request L V) : Prop where
  round : ∃ n waiting, h.store.round = some ⟨n, some i, waiting⟩
  state : h.store.state? i = some l
  intent : Listener.intent l = some (.ask r)

/-- A request that a listener makes, with the answer that it learns. -/
def consult (h : Hub L V) (i : Nat) (r : Request L V) : Hub L V :=
  (h.perform (some i) r).1.alter i (Listener.learn · (h.perform (some i) r).2)

theorem step?_cases {h g : Hub L V} (e : h.step? = some g) :
    Step h h.beat g ∨
      ∃ i l r, Asking h i l r ∧ h.beat = .asked (some i) r ∧ g = h.consult i r := by
  unfold step? at e
  split at e
  · rename_i hr
    have hb : h.beat = .quiet := by simp [beat, hr]
    split at e
    · cases e
    · rename_i n others hp
      cases e
      rw [hb]
      exact .inl (.start hr hp)
  · rename_i n hr
    have hb : h.beat = .quiet := by simp [beat, hr]
    cases e
    rw [hb]
    exact .inl (.close hr)
  · rename_i n i waiting hr
    have hb : h.beat = .called i h.turn := by simp [beat, hr]
    cases e
    rw [hb]
    exact .inl (.call hr)
  · rename_i n i waiting hr
    cases e
    unfold follow
    split
    · rename_i hi
      have hb : h.beat = .quiet := by simp [beat, hr, hi]
      rw [hb]
      exact .inl (.pass hr)
    · rename_i message hi
      have hb : h.beat = .failed i := by simp [beat, hr, hi]
      rw [hb]
      exact .inl (.fail message hr)
    · rename_i r hi
      have hb : h.beat = .asked (some i) r := by simp [beat, hr, hi]
      obtain ⟨l, hl, hi⟩ := Option.bind_eq_some_iff.1 hi
      exact .inr ⟨i, l, r, ⟨⟨n, waiting, hr⟩, hl, hi⟩, hb, rfl⟩

theorem deeds_consult {p : Permit L} (h : Hub L V) (i : Nat) {r : Request L V} (hr : r.Within p)
    (hs : ∀ q ∈ h.slots, p.leave q.2) (hc : ∀ a, p.change (Listener.learn · a)) :
    Deeds p h (h.consult i r) :=
  (deeds_perform p h (some i) hr hs).tail (.alter _ i (hc _))

/-- The courses of a hub: the beats that lead from one state to another. -/
inductive Course : Hub L V → List (Beat L V) → Hub L V → Prop where
  | rest (h : Hub L V) : Course h [] h
  | ask {h m : Hub L V} {bs : List (Beat L V)} (c : Course h bs m) (asker : Option Nat)
      (r : Request L V) :
      Course h (bs ++ [.asked asker r]) (Hub.perform { m with fault := none } asker r).1
  | step {h m g : Hub L V} {bs : List (Beat L V)} (c : Course h bs m) (e : m.step? = some g) :
      Course h (bs ++ [m.beat]) g

theorem Course.trans {h m g : Hub L V} {bs cs : List (Beat L V)} (c : Course h bs m)
    (d : Course m cs g) : Course h (bs ++ cs) g := by
  induction d with
  | rest => simpa using c
  | ask _ asker r ih => simpa [List.append_assoc] using ih.ask asker r
  | step _ e ih => simpa [List.append_assoc] using ih.step e

/-- The beats of so many steps. -/
def beats : Nat → Hub L V → List (Beat L V)
  | 0, _ => []
  | k + 1, h =>
    match h.step? with
    | none => []
    | some g => h.beat :: beats k g

theorem course_advance (k : Nat) (h : Hub L V) : Course h (beats k h) (advance k h) := by
  induction k generalizing h with
  | zero => exact .rest h
  | succ k ih =>
    cases e : h.step? with
    | none => simpa [beats, advance, e] using Course.rest h
    | some g => simpa [beats, advance, e] using ((Course.rest h).step e).trans (ih g)

/-- To settle is to go on for some number of steps. -/
theorem settle_eq_advance [Bounded L V] (h : Hub L V) : ∃ k, h.settle = advance k h := by
  fun_induction settle h with
  | case1 h e => exact ⟨0, rfl⟩
  | case2 h g e ih =>
    obtain ⟨k, hk⟩ := ih
    exact ⟨k + 1, by simp [advance, e, hk]⟩

theorem course_settle [Bounded L V] (h : Hub L V) : ∃ bs, Course h bs h.settle := by
  obtain ⟨k, hk⟩ := settle_eq_advance h
  rw [hk]
  exact ⟨_, course_advance k h⟩

theorem drive_fst [Bounded L V] (h : Hub L V) (r : Request L V) :
    (h.drive (.ask r)).1 = (Hub.perform { h with fault := none } none r).1.settle := by
  simp only [drive]
  split <;> rfl

theorem course_drive [Bounded L V] (h : Hub L V) (o : Order L V) :
    ∃ bs, Course h bs (h.drive o).1 := by
  cases o with
  | fail message => exact ⟨[], .rest h⟩
  | ask r =>
    obtain ⟨bs, c⟩ := course_settle (Hub.perform { h with fault := none } none r).1
    rw [drive_fst]
    exact ⟨_, ((Course.rest h).ask none r).trans c⟩

end Hub
end SchemaBoard
