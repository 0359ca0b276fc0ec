import SchemaBoard.Store.Round

/-!
# Settling

Listeners whose requests are limited in number come to rest: every request uses up some of a budget,
a new listener comes out of the budget of the one that subscribes it, and between requests the
notices in line and the listeners of the round only get fewer. Main statement: `measure_step?`.
-/
namespace SchemaBoard

/-- What a request costs: one, and the budget of the listener that it brings. -/
def Request.cost {L V : Type} (budget : L → Nat) : Request L V → Nat
  | .subscribe _ l => budget l + 1
  | _ => 1

/-- Listeners with a limit on what they still ask. -/
class Bounded (L : Type) (V : outParam Type) [Listener L V] where
  budget : L → Nat
  budget_hear : ∀ (l : L) (n : Notice V), budget (Listener.hear l n) ≤ budget l
  budget_learn : ∀ (l : L) (r : Request L V) (a : Answer V),
    Listener.intent l = some (.ask r) → budget (Listener.learn l a) + r.cost budget ≤ budget l

namespace Hub

variable {L V : Type}

/-- A measure of all subscribers together. -/
def total (f : L → Nat) : List (Subscriber L) → Nat
  | [] => 0
  | x :: xs => f x.state + total f xs

theorem total_append (f : L → Nat) (xs ys : List (Subscriber L)) :
    total f (xs ++ ys) = total f xs + total f ys := by
  induction xs with
  | nil => simp [total]
  | cons x xs ih => simp only [List.cons_append, total, ih]; omega

/-- A change at one place changes the total by as much. -/
theorem total_modify (f : L → Nat) (g : L → L) (xs : List (Subscriber L)) (i : Nat)
    (x : Subscriber L) (h : xs[i]? = some x) :
    total f (xs.modify i fun y => { y with state := g y.state }) + f x.state
      = total f xs + f (g x.state) := by
  induction xs generalizing i with
  | nil => simp at h
  | cons y ys ih =>
    cases i with
    | zero =>
      simp only [List.getElem?_cons_zero, Option.some.injEq] at h
      subst h
      simp only [total, List.modify_zero_cons]
      omega
    | succ i =>
      simp only [List.getElem?_cons_succ] at h
      have := ih i h
      simp only [total, List.modify_succ_cons]
      omega

theorem total_modify_le (f : L → Nat) (g : L → L) (hg : ∀ l, f (g l) ≤ f l)
    (xs : List (Subscriber L)) (i : Nat) :
    total f (xs.modify i fun y => { y with state := g y.state }) ≤ total f xs := by
  cases h : xs[i]? with
  | none => exact Nat.le_of_eq (congrArg (total f) (List.modify_eq_self (by simpa using h)))
  | some x =>
    have := total_modify f g xs i x h
    have := hg x.state
    omega

@[simp] theorem subscribers_detach (h : Hub L V) (i : Nat) :
    (h.detach i).store.subscribers = h.store.subscribers := by
  unfold detach
  split <;> rfl

@[simp] theorem subscribers_vacate (h : Hub L V) (slot : String) :
    (h.vacate slot).1.store.subscribers = h.store.subscribers := by
  unfold vacate
  split <;> simp

theorem subscribers_fill (h : Hub L V) (slot : String) (l : L) :
    (h.fill slot l).store.subscribers = h.store.subscribers ++ [⟨slot, l⟩] := by
  simp [fill, subscribe, Store.subscribe]

/-- A request adds at most the listener it brings. -/
theorem subscribers_perform (h : Hub L V) (asker : Option Nat) (r : Request L V) :
    (h.perform asker r).1.store.subscribers = h.store.subscribers ∨
      ∃ slot l, r = .subscribe slot l ∧
        (h.perform asker r).1.store.subscribers = h.store.subscribers ++ [⟨slot, l⟩] := by
  unfold perform
  simp only [note]
  split
  · exact .inl rfl
  · cases r with
    | subscribe slot l => exact .inr ⟨slot, l, rfl, subscribers_fill h slot l⟩
    | unsubscribe slot => exact .inl (subscribers_vacate h slot)
    | discard slot => exact .inl (subscribers_vacate h slot)
    | writeAt tag n o =>
      simp only [serve, writeAt?]
      split <;> rename_i heq <;> split at heq <;> simp_all [land, Store.land]
      subst heq
      rfl
    | _ => exact .inl rfl

variable [Listener L V]

section Measure

variable [Bounded L V]

/-- What the listeners may still ask. -/
def budget (h : Hub L V) : Nat := total Bounded.budget h.store.subscribers

/-- How far a round is from its end. -/
def ahead (h : Hub L V) : Nat :=
  match h.store.round with
  | none => 0
  | some ⟨_, none, waiting⟩ => 2 * waiting.length + 1
  | some ⟨_, some _, waiting⟩ => 2 * waiting.length + 2

theorem budget_perform_le (h : Hub L V) (asker : Option Nat) (r : Request L V) :
    total Bounded.budget (h.perform asker r).1.store.subscribers + 1
      ≤ h.budget + r.cost Bounded.budget := by
  rcases subscribers_perform h asker r with he | ⟨slot, l, rfl, he⟩
  · rw [he]
    have : 1 ≤ r.cost (Bounded.budget (L := L)) := by cases r <;> simp [Request.cost]
    simp only [budget]
    omega
  · have : total (Bounded.budget (L := L)) [⟨slot, l⟩] = Bounded.budget l := by simp [total]
    rw [he, total_append]
    simp only [budget, Request.cost]
    omega

theorem budget_call_le (h : Hub L V) (n : Notice V) (i : Nat) (waiting : List Nat) :
    (h.call n i waiting).budget ≤ h.budget :=
  total_modify_le _ _ (fun l => Bounded.budget_hear l n) _ _

/-- An answered request uses up budget. -/
theorem budget_answered_lt (h : Hub L V) (i : Nat) (r : Request L V) (x : Subscriber L)
    (hx : h.store.subscribers[i]? = some x) (hi : Listener.intent x.state = some (.ask r))
    (asker : Option Nat) (a : Answer V) :
    ((h.perform asker r).1.alter i (Listener.learn · a)).budget < h.budget := by
  have hx' : (h.perform asker r).1.store.subscribers[i]? = some x := by
    rcases subscribers_perform h asker r with he | ⟨slot, l, rfl, he⟩
    · rw [he, hx]
    · rw [he, List.getElem?_append_left (List.getElem?_eq_some_iff.1 hx).1, hx]
  have h₁ := total_modify (Bounded.budget (L := L)) (Listener.learn · a) _ i x hx'
  have h₂ := budget_perform_le h asker r
  have h₃ := Bounded.budget_learn x.state r a hi
  simp only [budget, alter, Store.alter] at h₂ ⊢
  omega

/-- Every step brings the hub nearer to rest. -/
theorem measure_step? {h g : Hub L V} (e : h.step? = some g) :
    Prod.Lex (· < ·) (Prod.Lex (· < ·) (· < ·))
      (g.budget, g.store.pending.length, g.ahead)
      (h.budget, h.store.pending.length, h.ahead) := by
  unfold step? at e
  split at e
  · split at e
    · exact nomatch e
    · rename_i n others hp
      cases e
      exact .right _ (.left _ _ (by simp [start, hp]))
  · rename_i hr
    cases e
    exact .right _ (.right _ (by simp [setRound, ahead, hr]))
  · rename_i n i waiting hr
    cases e
    rcases Nat.lt_or_eq_of_le (budget_call_le h n i waiting) with hlt | heq
    · exact .left _ _ hlt
    · rw [heq]
      exact .right _ (.right _ (by simp [call, note, setRound, ahead, hr]; omega))
  · rename_i n i waiting hr
    cases e
    unfold follow
    split
    · exact .right _ (.right _ (by simp [setRound, ahead, hr]))
    · by_cases hp : h.store.pending = []
      · exact .right _ (by
          rw [show (h.abandon i _).store.pending.length = h.store.pending.length by
            simp [abandon, hp]]
          exact .right _ (by simp [abandon, ahead, hr]))
      · exact .right _ (.left _ _ (by simpa [abandon] using List.length_pos_iff.2 hp))
    · rename_i r hi
      obtain ⟨l, hl, hi⟩ := Option.bind_eq_some_iff.1 hi
      obtain ⟨x, hx, rfl⟩ := Option.map_eq_some_iff.1 hl
      exact .left _ _ (budget_answered_lt h i r x hx hi _ _)

end Measure

/-- Let all notices go their way. -/
def settle [Bounded L V] (h : Hub L V) : Hub L V :=
  match _e : h.step? with
  | none => h
  | some g => settle g
termination_by (h.budget, h.store.pending.length, h.ahead)
decreasing_by exact measure_step? _e

/-- Ask something from outside and let everything come to rest. The answer is the message of a
failure if a listener failed on the way. -/
def drive [Bounded L V] (h : Hub L V) (o : Order L V) : Hub L V × Except String (Answer V) :=
  match o with
  | .fail message => (h, .error message)
  | .ask r =>
    let asked := Hub.perform { h with fault := none } none r
    let g := asked.1.settle
    match g.fault with
    | some message => (g, .error message)
    | none => (g, .ok asked.2)

end Hub
end SchemaBoard
