import SchemaBoard.Store.Settle

/-!
# Scripted listeners

A listener that follows rules. A rule says which notices it answers to, how often it may do so, and
what is then done, step by step; the steps may subscribe scripted listeners in turn. On each notice
the rules are gone through in order. Main statement: the budget of a script bounds what it asks, so
stores with such listeners settle.
-/
namespace SchemaBoard

/-- What a notice must have: the tag, the value of a success, the message of a failure. -/
structure Pattern (V : Type) where
  tag : Option String := none
  value : Option V := none
  failure : Option String := none

namespace Pattern

variable {V : Type} [BEq V]

def fitsOutcome (p : Pattern V) : Outcome V → Bool
  | .success v => p.failure.isNone && p.value.all (· == v)
  | .failure m => p.value.isNone && p.failure.all (· = m)

/-- Whether a notice has all that is asked for. -/
def fits (p : Pattern V) (n : Notice V) : Bool :=
  p.tag.all (· = n.tag) && p.fitsOutcome n.entry.outcome

end Pattern

mutual

/-- A rule with the number of times it may still apply. -/
inductive Rule (V : Type) where
  | mk (pattern : Pattern V) (times : Nat) (orders : List (Order (Script V) V))

/-- A script on its way through the rules: those passed, the last one first, those to come, and what
is left to do of the last rule that applied. -/
inductive Script (V : Type) where
  | mk (notice : Option (Notice V)) (passed coming : List (Rule V))
    (orders : List (Order (Script V) V))

end

variable {V : Type}

namespace Rule

/-- Whether a rule applies to a notice. One that has nothing to do never counts. -/
def applies [BEq V] (r : Rule V) (n : Notice V) : Bool :=
  match r with
  | ⟨p, times, orders⟩ => 0 < times && !orders.isEmpty && p.fits n

def spent : Rule V → Rule V
  | ⟨p, times, orders⟩ => ⟨p, times - 1, orders⟩

def orders : Rule V → List (Order (Script V) V)
  | ⟨_, _, orders⟩ => orders

end Rule

namespace Script

/-- A script before its first notice. -/
def ofRules (rules : List (Rule V)) : Script V := ⟨none, [], rules, []⟩

variable [BEq V]

/-- Go on to the next rule that applies. -/
def seek (n : Notice V) (passed : List (Rule V)) : List (Rule V) → Script V
  | [] => ⟨some n, passed, [], []⟩
  | r :: rest =>
    if r.applies n then ⟨some n, r.spent :: passed, rest, r.orders⟩ else seek n (r :: passed) rest

/-- Start again at the first rule; what was left of an earlier notice is dropped. -/
def hear : Script V → Notice V → Script V
  | ⟨_, passed, coming, _⟩, n => seek n [] (passed.reverse ++ coming)

def intent : Script V → Option (Order (Script V) V)
  | ⟨_, _, _, orders⟩ => orders.head?

/-- The answers play no part in a script. -/
def learn : Script V → Answer V → Script V
  | ⟨some n, passed, coming, [_]⟩, _ => seek n passed coming
  | ⟨n, passed, coming, orders⟩, _ => ⟨n, passed, coming, orders.tail⟩

instance : Listener (Script V) V := ⟨hear, intent, learn⟩

end Script

mutual

def Rule.budget : Rule V → Nat
  | ⟨_, times, orders⟩ => times * ordersBudget orders

def Script.budget : Script V → Nat
  | ⟨_, passed, coming, orders⟩ => rulesBudget passed + rulesBudget coming + ordersBudget orders

def rulesBudget : List (Rule V) → Nat
  | [] => 0
  | r :: rest => r.budget + rulesBudget rest

def ordersBudget : List (Order (Script V) V) → Nat
  | [] => 0
  | o :: rest => orderBudget o + ordersBudget rest

def orderBudget : Order (Script V) V → Nat
  | .ask r => requestBudget r
  | .fail _ => 0

def requestBudget : Request (Script V) V → Nat
  | .subscribe _ s => s.budget + 1
  | _ => 1

end

theorem requestBudget_eq (r : Request (Script V) V) : requestBudget r = r.cost Script.budget := by
  cases r <;> simp [requestBudget, Request.cost]

theorem rulesBudget_append (xs ys : List (Rule V)) :
    rulesBudget (xs ++ ys) = rulesBudget xs + rulesBudget ys := by
  induction xs with
  | nil => simp [rulesBudget]
  | cons x xs ih => simp only [List.cons_append, rulesBudget, ih]; omega

theorem rulesBudget_reverse (xs : List (Rule V)) : rulesBudget xs.reverse = rulesBudget xs := by
  induction xs with
  | nil => rfl
  | cons x xs ih => simp [rulesBudget_append, rulesBudget, ih]; omega

variable [BEq V]

/-- A rule that applies pays for what it does. -/
theorem Rule.budget_spent {r : Rule V} {n : Notice V} (h : r.applies n = true) :
    r.spent.budget + ordersBudget r.orders = r.budget := by
  obtain ⟨p, times, orders⟩ := r
  simp only [Rule.applies, Bool.and_eq_true, decide_eq_true_eq] at h
  obtain ⟨k, rfl⟩ : ∃ k, times = k + 1 := ⟨times - 1, by omega⟩
  simp [Rule.spent, Rule.orders, Rule.budget, Nat.add_mul]

theorem Script.budget_seek (n : Notice V) (passed coming : List (Rule V)) :
    (Script.seek n passed coming).budget = rulesBudget passed + rulesBudget coming := by
  induction coming generalizing passed with
  | nil => simp [Script.seek, Script.budget, rulesBudget, ordersBudget]
  | cons r rest ih =>
    rw [Script.seek]
    split
    · have := Rule.budget_spent ‹_›
      simp only [Script.budget, rulesBudget]
      omega
    · rw [ih]
      simp only [rulesBudget]
      omega

instance : Bounded (Script V) V where
  budget := Script.budget
  budget_hear := by
    rintro ⟨m, passed, coming, orders⟩ n
    simp only [Listener.hear, Script.hear, Script.budget_seek, rulesBudget_append,
      rulesBudget_reverse, rulesBudget, Script.budget]
    omega
  budget_learn := by
    rintro ⟨m, passed, coming, orders⟩ r a h
    obtain ⟨rest, rfl⟩ := List.head?_eq_some_iff.1 h
    simp only [Listener.learn, Script.learn]
    split
    · rename_i heq
      injection heq with h₁ h₂ h₃ h₄
      subst h₁ h₂ h₃
      injection h₄ with h₅ h₆
      subst h₅ h₆
      simp only [Script.budget_seek, Script.budget, ordersBudget, orderBudget, requestBudget_eq]
      omega
    · rename_i heq
      injection heq with h₁ h₂ h₃ h₄
      subst h₁ h₂ h₃ h₄
      simp only [List.tail_cons, Script.budget, ordersBudget, orderBudget, requestBudget_eq]
      omega

end SchemaBoard
