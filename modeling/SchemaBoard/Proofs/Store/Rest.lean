import SchemaBoard.Proofs.Store.Numbering

/-!
# Coming to rest

Whatever is asked of a hub, its notices come to the end of their way. A step that starts a round
takes a notice from the line, a request that lets an entry land puts one there, and nothing else
changes the line but a failure: so, unless a listener fails, there is one round for each notice that
stood in line or landed. How many can land at all is bounded by what the listeners may still ask,
those included that are yet to be subscribed. Main statement: `drive_comes_to_rest`.
-/
namespace SchemaBoard

variable {L V : Type}

namespace Hub

/-! ## Rounds -/

/-- The notice whose round the next step starts. -/
def starting? (h : Hub L V) : Option (Notice V) :=
  match h.store.round with
  | none => h.store.pending.head?
  | some _ => none

/-- The notices whose rounds are started in so many steps, in their order. -/
def rounds [Listener L V] : Nat → Hub L V → List (Notice V)
  | 0, _ => []
  | k + 1, h =>
    match h.step? with
    | none => []
    | some g => h.starting?.toList ++ rounds k g

/-- On the way from `h` to `g` some notices landed, and all of them were put in line; those whose
rounds were started left it at the other end. -/
structure Flow (h : Hub L V) (started landing : List (Notice V)) (g : Hub L V) : Prop where
  landed : g.landed = h.landed ++ landing
  line : h.store.pending ++ landing = started ++ g.store.pending

variable {h m g : Hub L V}

theorem Flow.trans {s₁ s₂ l₁ l₂ : List (Notice V)} (f : Flow h s₁ l₁ m) (k : Flow m s₂ l₂ g) :
    Flow h (s₁ ++ s₂) (l₁ ++ l₂) g where
  landed := by rw [k.landed, f.landed, List.append_assoc]
  line := by
    calc h.store.pending ++ (l₁ ++ l₂) = (h.store.pending ++ l₁) ++ l₂ := by simp
      _ = s₁ ++ (m.store.pending ++ l₂) := by rw [f.line, List.append_assoc]
      _ = s₁ ++ s₂ ++ g.store.pending := by rw [k.line, List.append_assoc]

theorem Flow.refl (h : Hub L V) : Flow h [] [] h := ⟨by simp, by simp⟩

theorem flow_deed {p : Permit L} (d : Deed p h g) : ∃ landing, Flow h [] landing g := by
  cases d with
  | @land n hn => exact ⟨[n], landed_land h n, rfl⟩
  | aside hs hl hh hp => exact ⟨[], by simp [hl], by simp [hs]⟩
  | _ => exact ⟨[], by simp [landed, subscribe, issue, alter], by
      simp [subscribe, Store.subscribe, issue, Store.issue, alter, Store.alter, Store.detach]⟩

theorem flow_deeds {p : Permit L} (d : Deeds p h g) : ∃ landing, Flow h [] landing g := by
  induction d with
  | refl => exact ⟨[], .refl h⟩
  | tail _ d ih =>
    obtain ⟨l₁, f₁⟩ := ih
    obtain ⟨l₂, f₂⟩ := flow_deed d
    exact ⟨l₁ ++ l₂, f₁.trans f₂⟩

/-! ## What can land -/

theorem landed_of_log (e : g.log = h.log) : g.landed = h.landed := by
  simp [landed, e]

/-- A request lets at most one entry land. -/
theorem length_landed_serve_le (h : Hub L V) (r : Request L V) :
    (h.serve r).1.landed.length ≤ h.landed.length + 1 := by
  have same (e : (h.serve r).1.landed = h.landed) :
      (h.serve r).1.landed.length ≤ h.landed.length + 1 := by
    rw [e]
    omega
  cases r with
  | write tag o =>
    have hl : (h.write tag o).landed = (h.issue tag).landed ++ [_] := landed_land (h.issue tag) _
    have hi : (h.issue tag).landed = h.landed := rfl
    simp [serve, hl, hi]
  | writeAt tag k o =>
    cases e : h.writeAt? tag k o with
    | none => exact same (by simp [serve, e])
    | some g =>
      obtain ⟨-, rfl⟩ := eq_land_of_writeAt? e
      simp [serve, e]
  | issue tag => exact same rfl
  | read tag => exact same rfl
  | value tag => exact same rfl
  | _ => exact same (landed_of_log (log_serve rfl))

theorem length_landed_perform_le (h : Hub L V) (asker : Option Nat) (r : Request L V) :
    (h.perform asker r).1.landed.length ≤ h.landed.length + 1 := by
  obtain ⟨g, a, e, he⟩ := perform_fst h asker r
  have noted : (h.perform asker r).1.landed = g.landed := by
    rw [e]
    rfl
  rw [noted]
  rcases he with rfl | rfl
  · omega
  · exact length_landed_serve_le h r

/-! ## One step -/

variable [Listener L V]

theorem flow_step {b : Beat L V} (s : Step h b g) (sound : b.isFailed = false) :
    Flow h h.starting?.toList [] g := by
  refine ⟨by rw [landed_step s, List.append_nil], ?_⟩
  cases s with
  | start hr hp => simp [starting?, hr, hp, start]
  | close hr => simp [starting?, hr, setRound]
  | call hr => simp [starting?, hr, call, note, setRound, alter, Store.alter]
  | pass hr => simp [starting?, hr, setRound]
  | fail message hr => cases sound

theorem flow_step? (e : h.step? = some g) (sound : h.beat.isFailed = false) :
    ∃ landing, Flow h h.starting?.toList landing g := by
  rcases step?_cases e with s | ⟨i, l, r, asking, -, rfl⟩
  · exact ⟨[], flow_step s sound⟩
  · obtain ⟨n, waiting, hr⟩ := asking.round
    have none_starts : h.starting?.toList = [] := by simp [starting?, hr]
    rw [none_starts]
    exact flow_deeds (deeds_consult_all h i r)

variable [Bounded L V]

theorem budget_step_le {b : Beat L V} (s : Step h b g) : g.budget ≤ h.budget := by
  cases s with
  | call hr => exact budget_call_le h _ _ _
  | _ => exact Nat.le_refl _

theorem budget_consult_lt {i : Nat} {l : L} {r : Request L V} (asking : Asking h i l r) :
    (h.consult i r).budget < h.budget := by
  obtain ⟨x, hx, rfl⟩ := Option.map_eq_some_iff.1 asking.state
  exact budget_answered_lt h i r x hx asking.intent (some i) _

/-- Whatever lands on the way is paid for out of the budget of the listeners. -/
theorem landed_add_budget_le (e : h.step? = some g) :
    g.landed.length + g.budget ≤ h.landed.length + h.budget := by
  rcases step?_cases e with s | ⟨i, l, r, asking, -, rfl⟩
  · have := budget_step_le s
    rw [landed_step s]
    omega
  · have spent := budget_consult_lt asking
    have landing := length_landed_perform_le h (some i) r
    have same : (h.consult i r).landed = (h.perform (some i) r).1.landed := rfl
    rw [same]
    omega

/-! ## All comes to rest -/

theorem isIdle_settle (h : Hub L V) : h.settle.store.isIdle = true := by
  fun_induction settle h with
  | case1 h e => exact (step?_eq_none_iff h).1 e
  | case2 h g e ih => exact ih

theorem settle_of_step?_none (e : h.step? = none) : h.settle = h := by
  unfold settle
  split
  · rfl
  · simp_all

theorem settle_of_step? (e : h.step? = some g) : h.settle = g.settle := by
  rw [settle]
  split
  · simp_all
  · simp_all

/-- What is quiet after so many steps is where it comes to rest. -/
theorem settle_eq_of_advance {k : Nat} (quiet : (advance k h).step? = none) :
    h.settle = advance k h := by
  induction k generalizing h with
  | zero => exact settle_of_step?_none quiet
  | succ k ih =>
    cases e : h.step? with
    | none => simpa [advance, e] using settle_of_step?_none e
    | some g =>
      rw [settle_of_step? e]
      simp only [advance, e] at quiet ⊢
      exact ih quiet

/-- Nothing goes on after a failure, so its message stays. -/
theorem sound_of_fault (e : h.step? = some g) (hf : g.settle.fault = none) :
    h.beat.isFailed = false := by
  by_contra failed
  obtain ⟨i, message, rfl⟩ := eq_abandon_of_isFailed e (by simpa using failed)
  rw [settle_of_step?_none rfl] at hf
  cases hf

/-- The way to rest: so many steps, in which no more lands than the listeners can pay for and,
unless a listener fails, there is a round for each notice that was in line or came there. -/
theorem exists_advance_to_rest (h : Hub L V) :
    ∃ k, h.settle = advance k h ∧
      h.settle.landed.length + h.settle.budget ≤ h.landed.length + h.budget ∧
      (h.settle.fault = none → ∃ landing, Flow h (rounds k h) landing h.settle) := by
  fun_induction settle h with
  | case1 h e => exact ⟨0, rfl, Nat.le_refl _, fun _ => ⟨[], .refl h⟩⟩
  | case2 h g e ih =>
    obtain ⟨k, way, paid, flow⟩ := ih
    refine ⟨k + 1, by simpa [advance, e] using way, ?_, ?_⟩
    · exact Nat.le_trans paid (landed_add_budget_le e)
    · intro hf
      obtain ⟨l₁, f₁⟩ := flow_step? e (sound_of_fault e hf)
      obtain ⟨l₂, f₂⟩ := flow hf
      have all : rounds (k + 1) h = h.starting?.toList ++ rounds k g := by simp [rounds, e]
      rw [all]
      exact ⟨l₁ ++ l₂, f₁.trans f₂⟩

/-! ## What is asked from outside -/

theorem drive_snd_ok_iff {r : Request L V} {a : Answer V} :
    (h.drive (.ask r)).2 = .ok a ↔
      (h.drive (.ask r)).1.fault = none ∧ (Hub.perform { h with fault := none } none r).2 = a := by
  simp only [drive]
  split
  · rename_i message hf
    simp [hf]
  · rename_i hf
    simp [hf]

theorem isIdle_drive (h : Hub L V) (r : Request L V) :
    (h.drive (.ask r)).1.store.isIdle = true := by
  rw [drive_fst]
  exact isIdle_settle _

/-- What is asked may let one entry land itself; all others are paid for by the listeners, the one
that it may bring included. -/
theorem length_landed_drive_le (h : Hub L V) (r : Request L V) :
    (h.drive (.ask r)).1.landed.length ≤
      h.landed.length + (h.budget + r.cost Bounded.budget) := by
  have first : (Hub.perform { h with fault := none } none r).1.landed.length ≤
      h.landed.length + 1 := length_landed_perform_le { h with fault := none } none r
  have left : (Hub.perform { h with fault := none } none r).1.budget + 1 ≤
      h.budget + r.cost Bounded.budget := budget_perform_le { h with fault := none } none r
  obtain ⟨-, -, paid, -⟩ := exists_advance_to_rest (Hub.perform { h with fault := none } none r).1
  rw [drive_fst]
  omega

/-- What is asked of a hub with scripted listeners comes to an end: in some number of steps nothing
is on its way and nothing waits. What lands meanwhile is bounded by the rules that may still apply.
Unless a listener fails, the answer is returned, and there was exactly one round for each notice
that had been in line and for each that landed since, in this order. -/
theorem drive_comes_to_rest [BEq V] (h : Hub (Script V) V) (r : Request (Script V) V) :
    (h.drive (.ask r)).1.store.round = none ∧ (h.drive (.ask r)).1.store.pending = [] ∧
    ∃ k landing,
      (h.drive (.ask r)).1 = advance k (Hub.perform { h with fault := none } none r).1 ∧
      (h.drive (.ask r)).1.landed = h.landed ++ landing ∧
      landing.length ≤ h.budget + r.cost Script.budget ∧
      ∀ a, (h.drive (.ask r)).2 = .ok a →
        a = (Hub.perform { h with fault := none } none r).2 ∧
        rounds k (Hub.perform { h with fault := none } none r).1 = h.store.pending ++ landing := by
  have begun : Deeds {} h (Hub.perform { h with fault := none } none r).1 := deeds_asked h none r
  have bound := length_landed_drive_le h r
  have quiet := isIdle_drive h r
  obtain ⟨k, way, -, flow⟩ :=
    exists_advance_to_rest (Hub.perform { h with fault := none } none r).1
  obtain ⟨landing, hl⟩ : h.landed <+: (h.drive (.ask r)).1.landed := by
    obtain ⟨bs, c⟩ := course_drive h (.ask r)
    exact landed_course c
  rw [← drive_fst] at way flow
  simp only [Store.isIdle, Bool.and_eq_true, Option.isNone_iff_eq_none, List.isEmpty_iff] at quiet
  refine ⟨quiet.1, quiet.2, k, landing, way, hl.symm, ?_, ?_⟩
  · rw [← hl, List.length_append] at bound
    exact Nat.le_of_add_le_add_left bound
  · intro a ha
    obtain ⟨sound, rfl⟩ := drive_snd_ok_iff.1 ha
    obtain ⟨l₁, f₁⟩ := flow_deeds begun
    obtain ⟨l₂, f₂⟩ := flow sound
    have f := f₁.trans f₂
    obtain rfl : l₁ ++ l₂ = landing := List.append_cancel_left (f.landed.symm.trans hl.symm)
    refine ⟨rfl, ?_⟩
    rw [f.line, quiet.2]
    simp

/-! ## A listener that brings another -/

/-- Answers the value one with a listener that answers the value two, and with that value. -/
def nesting : Script Nat :=
  .ofRules [⟨{ value := some 1 }, 1,
    [.ask (.subscribe "b" (.ofRules [⟨{ value := some 2 }, 1, [.ask (.write "t" (.success 3))]⟩])),
      .ask (.write "t" (.success 2))]⟩]

def nest : Hub (Script Nat) Nat := (Hub.perform {} none (.subscribe "a" nesting)).1

def stirred : Hub (Script Nat) Nat := (Hub.perform nest none (.write "t" (.success 1))).1

/-- Three writes land, and three rounds are run; the last write is that of the listener that came
with the second. -/
theorem nesting_comes_to_rest : ∃ k, (nest.drive (.ask (.write "t" (.success 1)))).2 = .ok .done ∧
    rounds k stirred = [⟨"t", 1, .success 1⟩, ⟨"t", 2, .success 2⟩, ⟨"t", 3, .success 3⟩] := by
  have settled : stirred.settle = advance 30 stirred := settle_eq_of_advance (by decide)
  have reached : (nest.drive (.ask (.write "t" (.success 1)))).1 = advance 30 stirred :=
    (drive_fst nest _).trans settled
  have sound : (nest.drive (.ask (.write "t" (.success 1)))).2 = .ok .done := by
    rw [drive_snd_ok_iff, reached]
    exact ⟨rfl, rfl⟩
  obtain ⟨-, -, k, landing, -, landed, -, all⟩ :=
    drive_comes_to_rest nest (.write "t" (.success 1))
  rw [reached] at landed
  refine ⟨k, sound, ?_⟩
  rw [show rounds k stirred = landing from (all _ sound).2]
  exact landed.symm

end Hub
end SchemaBoard
