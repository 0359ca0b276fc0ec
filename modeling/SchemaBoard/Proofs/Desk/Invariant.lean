import SchemaBoard.Proofs.Desk.Course

/-!
# What holds of every desk

The display that a desk starts with is the first listener to be told of anything, and nothing takes
it down. Displays change only by hearing a notice and by acts of their owner. Main statements: a
move is a few deeds, a step of the notices or a control; every display keeps what hearing and acts
keep; a number is issued by exactly those acts that say so.
-/
namespace SchemaBoard

variable {L V σ X : Type}

/-- What happens at a desk: the first listener stays, nothing but a fresh display joins as one, and
displays learn nothing. -/
def Watcher.permit (tag : Option String) : Permit (Watcher X) where
  leave i := i ≠ 0
  join l := ∀ x, l.display? = some x → x = {}
  change f := ∀ l, (f l).display? = l.display?
  land t := tag = some t

namespace Hub

/-! ## The displays among the listeners -/

/-- The display at a place. -/
def shown (h : Hub (Watcher X) Analysis) (i : Nat) : Option Display :=
  (h.store.state? i).bind Watcher.display?

theorem lt_of_shown {h : Hub (Watcher X) Analysis} {i : Nat} {x : Display}
    (hx : h.shown i = some x) : i < h.store.subscribers.length := by
  obtain ⟨l, hl, -⟩ := Option.bind_eq_some_iff.1 hx
  obtain ⟨s, hs, -⟩ := Option.map_eq_some_iff.1 hl
  exact (List.getElem?_eq_some_iff.1 hs).1

theorem shown_subscribe (h : Hub (Watcher X) Analysis) (name : String) (l : Watcher X) (i : Nat) :
    (h.subscribe name l).shown i
      = if i = h.store.subscribers.length then l.display? else h.shown i := by
  by_cases hi : i = h.store.subscribers.length
  · subst hi
    simp [shown, subscribe, Store.subscribe, Store.state?]
  · simp only [shown, subscribe, Store.subscribe, Store.state?, hi, if_false]
    rw [List.getElem?_append]
    split
    · rfl
    · have hge : h.store.subscribers.length ≤ i := by omega
      have hgt : i - h.store.subscribers.length ≠ 0 := by omega
      simp [List.getElem?_eq_none hge, hgt]

theorem shown_alter (h : Hub (Watcher X) Analysis) (j : Nat) (f : Watcher X → Watcher X) (i : Nat) :
    (h.alter j f).shown i
      = if i = j then (h.store.state? i).bind fun l => (f l).display? else h.shown i := by
  simp only [shown, alter, Store.alter, Store.state?, List.getElem?_modify]
  by_cases hi : i = j
  · simp only [hi, if_true]
    cases h.store.subscribers[j]? <;> rfl
  · simp [hi, Ne.symm hi]

/-- Deeds change no display, and one that comes is fresh. -/
theorem shown_deed {h g : Hub (Watcher X) Analysis} {tag : Option String}
    (d : Deed (Watcher.permit tag) h g) (i : Nat) :
    g.shown i = h.shown i ∨ (h.shown i = none ∧ g.shown i = some {}) := by
  cases d with
  | subscribe name hl =>
    rename_i l
    rw [shown_subscribe]
    by_cases hi : i = h.store.subscribers.length
    · have hold : h.shown i = none := by
        subst hi
        simp [shown, Store.state?]
      rw [if_pos hi, hold]
      cases hx : l.display? with
      | none => exact .inl rfl
      | some x =>
        rw [hl x hx]
        exact .inr ⟨rfl, rfl⟩
    · exact .inl (if_neg hi)
  | alter j hf =>
    rename_i f
    left
    have hd : (fun l => (f l).display?) = Watcher.display? := funext hf
    rw [shown_alter, hd]
    exact ite_self _
  | aside hs hl hh hp => exact .inl (by simp [shown, hs])
  | _ => exact .inl rfl

theorem shown_deeds {h g : Hub (Watcher X) Analysis} {tag : Option String}
    (d : Deeds (Watcher.permit tag) h g) {i : Nat} {x : Display} (hx : h.shown i = some x) :
    g.shown i = some x :=
  d.keep (P := fun g => g.shown i = some x)
    (fun m n d hm => by
      rcases shown_deed d i with hn | ⟨hm', -⟩
      · rw [hn, hm]
      · rw [hm] at hm'
        cases hm')
    hx

theorem within_map (q : Request X Analysis) :
    (q.map Watcher.other).Within (Watcher.permit (q.map Watcher.other).landing?) := by
  cases q with
  | subscribe slot y =>
    intro x hx
    cases hx
  | write tag o => exact rfl
  | writeAt tag k o => exact rfl
  | _ => trivial

section Steps

variable [Listener X Analysis]

theorem shown_call (h : Hub (Watcher X) Analysis) (n : Notice Analysis) (j : Nat)
    (waiting : List Nat) (i : Nat) :
    (h.call n j waiting).shown i
      = if i = j then (h.shown i).map (·.hear n) else h.shown i := by
  have hc : (h.call n j waiting).shown i = (h.alter j (Listener.hear · n)).shown i := rfl
  rw [hc, shown_alter]
  by_cases hi : i = j
  · simp only [hi, if_true, shown]
    cases h.store.state? j with
    | none => rfl
    | some l => cases l <;> rfl
  · simp [hi]

/-- A step leaves a display as it is, or lets it hear a notice. -/
theorem shown_step {h g : Hub (Watcher X) Analysis} {b : Beat (Watcher X) Analysis}
    (s : Step h b g) (i : Nat) :
    g.shown i = h.shown i ∨ ∃ n, g.shown i = (h.shown i).map (·.hear n) := by
  cases s with
  | @call n j waiting hr =>
    rw [shown_call]
    by_cases hi : i = j
    · exact .inr ⟨n, if_pos hi⟩
    · exact .inl (if_neg hi)
  | _ => exact .inl rfl

/-- Only listeners other than displays ask anything, and what they bring is not a display either. -/
theorem Asking.eq_map {h : Hub (Watcher X) Analysis} {i : Nat} {l : Watcher X}
    {r : Request (Watcher X) Analysis} (a : Asking h i l r) :
    ∃ q : Request X Analysis, r = q.map .other := by
  have hi := a.intent
  cases l with
  | display x => cases hi
  | other x =>
    obtain ⟨o, -, ho⟩ := Option.map_eq_some_iff.1 hi
    cases o with
    | fail m => cases ho
    | ask q => exact ⟨q, (Order.ask.inj ho).symm⟩

theorem display?_learn (a : Answer Analysis) (l : Watcher X) :
    (Listener.learn l a).display? = l.display? := by
  cases l <;> rfl

end Steps

/-- The display at place 0 stands first: it is registered, and whenever a round tells it of anything
it is the first to be told. -/
structure Led (h : Hub (Watcher X) Analysis) : Prop where
  pinned : h.isPinned = true
  first : ∃ x, h.shown 0 = some x
  listeners : ∃ rest, h.store.listeners = 0 :: rest ∧ 0 ∉ rest
  round : ∀ r, h.store.round = some r →
    0 ∉ r.waiting ∨ (r.current = none ∧ ∃ rest, r.waiting = 0 :: rest ∧ 0 ∉ rest)

namespace Led

variable {h g : Hub (Watcher X) Analysis}

theorem isOpen (f : Led h) : h.isOpen = true := by simp [Hub.isOpen, f.pinned]

theorem deed {tag : Option String} (d : Deed (Watcher.permit tag) h g) (f : Led h) : Led g := by
  obtain ⟨x, hx⟩ := f.first
  have hfirst : ∃ x, g.shown 0 = some x := ⟨x, shown_deeds (.single d) hx⟩
  obtain ⟨rest, hl, hr⟩ := f.listeners
  cases d with
  | subscribe name hj =>
    have hpos := lt_of_shown hx
    refine ⟨f.pinned, hfirst, ⟨rest ++ [h.store.subscribers.length], ?_, ?_⟩, f.round⟩
    · simp [Hub.subscribe, Store.subscribe, hl]
    · simp only [List.mem_append, List.mem_singleton, not_or]
      exact ⟨hr, by omega⟩
  | @detach i hi =>
    have hne : (0 : Nat) ≠ i := Ne.symm hi
    refine ⟨f.pinned, hfirst, ⟨rest.filter (· ≠ i), ?_, ?_⟩, f.round⟩
    · simp [Store.detach, hl, hne]
    · exact fun hm => hr (List.mem_filter.1 hm).1
  | issue t => exact ⟨f.pinned, hfirst, f.listeners, f.round⟩
  | land hn => exact ⟨f.pinned, hfirst, f.listeners, f.round⟩
  | alter i hf => exact ⟨f.pinned, hfirst, f.listeners, f.round⟩
  | aside hs hl hh hp => exact ⟨hp ▸ f.pinned, hfirst, hs ▸ f.listeners, hs ▸ f.round⟩

theorem deeds {tag : Option String} (d : Deeds (Watcher.permit tag) h g) (f : Led h) : Led g :=
  d.keep (fun _ _ d f => f.deed d) f

/-- To set a display disturbs nothing. -/
theorem alter (f : Led h) (i : Nat) (y : Display) :
    Led (h.alter i (Watcher.mapDisplay fun _ => y)) := by
  refine ⟨f.pinned, ?_, f.listeners, f.round⟩
  obtain ⟨x, hx⟩ := f.first
  obtain ⟨l, hl, hx⟩ := Option.bind_eq_some_iff.1 hx
  rw [shown_alter]
  by_cases hi : 0 = i
  · rw [if_pos hi, hl]
    cases l with
    | display z => exact ⟨y, rfl⟩
    | other z => cases hx
  · rw [if_neg hi]
    exact f.first

theorem step [Listener X Analysis] {b : Beat (Watcher X) Analysis} (s : Step h b g) (f : Led h) :
    Led g := by
  have hfirst : ∃ x, g.shown 0 = some x := by
    obtain ⟨x, hx⟩ := f.first
    rcases shown_step s 0 with hs | ⟨n, hs⟩
    · exact ⟨x, hs.trans hx⟩
    · exact ⟨x.hear n, by rw [hs, hx]; rfl⟩
  cases s with
  | @start n others hr hp =>
    refine ⟨f.pinned, hfirst, f.listeners, fun r he => .inr ?_⟩
    obtain rfl : ⟨n, none, h.store.listeners⟩ = r := Option.some.inj he
    exact ⟨rfl, f.listeners⟩
  | close hr => exact ⟨f.pinned, hfirst, f.listeners, fun r he => by cases he⟩
  | @call n i waiting hr =>
    refine ⟨f.pinned, hfirst, f.listeners, fun r he => .inl ?_⟩
    obtain rfl : ⟨n, some i, waiting⟩ = r := Option.some.inj he
    rcases f.round _ hr with hm | ⟨-, rest, hw, hm⟩
    · exact fun h₀ => hm (List.mem_cons_of_mem i h₀)
    · obtain ⟨-, rfl⟩ := List.cons.inj hw
      exact hm
  | @pass n i waiting hr =>
    refine ⟨f.pinned, hfirst, f.listeners, fun r he => .inl ?_⟩
    obtain rfl : ⟨n, none, waiting⟩ = r := Option.some.inj he
    rcases f.round _ hr with hm | ⟨hc, -⟩
    · exact hm
    · cases hc
  | fail message hr => exact ⟨f.pinned, hfirst, f.listeners, fun r he => by cases he⟩

end Led
end Hub

namespace Desk

/-- The display that a desk starts with stands first, and no slot and no other name leads to it. -/
structure Fit (d : Desk σ X) : Prop where
  led : d.hub.Led
  slots : ∀ q ∈ d.hub.slots, q.2 ≠ 0
  extra : ∀ q ∈ d.extra, q.2 ≠ 0

theorem fit_start (w : σ) : Fit (start w : Desk σ X) where
  led := by
    refine ⟨rfl, ⟨{}, rfl⟩, ⟨[], rfl, by simp⟩, ?_⟩
    intro r he
    cases he
  slots := by simp [start, Hub.subscribe]
  extra := by simp [start]

theorem place?_eq_zero_iff {d : Desk σ X} (f : d.Fit) (name : String) :
    d.place? name = some 0 ↔ name = mainName := by
  unfold place?
  by_cases hn : name = mainName
  · simp [hn]
  · simp only [hn, if_false, iff_false]
    intro h
    exact f.extra _ (Keyed.mem_of_lookup h) rfl

theorem display?_eq_shown {d : Desk σ X} {name : String} {i : Nat} (h : d.place? name = some i) :
    d.display? name = d.hub.shown i := by
  simp [display?, h, Hub.shown]

theorem display?_main (d : Desk σ X) : d.display? mainName = d.hub.shown 0 :=
  display?_eq_shown rfl

/-! ## What a move amounts to -/

theorem deeds_unmount {d : Desk σ X} (hd : ∀ q ∈ d.extra, q.2 ≠ 0) (tag : Option String)
    (name : String) : Hub.Deeds (Watcher.permit tag) d.hub (d.unmount name).2.hub := by
  unfold unmount
  split
  · rename_i i hi
    exact Hub.deeds_detach _ _ (hd _ (Keyed.mem_of_lookup hi))
  · exact .refl

/-- The desk as a display of a name comes, before an older one of that name goes. -/
def welcome (d : Desk σ X) (name : String) : Desk σ X :=
  { d with hub := d.hub.subscribe name (.display {}) }

theorem mount_eq (d : Desk σ X) (name : String) :
    d.mount name = { ((d.welcome name).unmount name).2 with
      extra := Keyed.put name d.hub.store.subscribers.length
        ((d.welcome name).unmount name).2.extra } := rfl

theorem slots_unmount (d : Desk σ X) (name : String) :
    (d.unmount name).2.hub.slots = d.hub.slots := by
  unfold unmount
  split
  · exact Hub.slots_detach _ _
  · rfl

theorem issued_unmount (d : Desk σ X) (name : String) :
    (d.unmount name).2.hub.store.issued = d.hub.store.issued := by
  unfold unmount
  split
  · exact Hub.issued_detach _ _
  · rfl

theorem mem_extra_unmount {d : Desk σ X} {name : String} {q : String × Nat}
    (hq : q ∈ (d.unmount name).2.extra) : q ∈ d.extra := by
  unfold unmount at hq
  split at hq
  · exact (List.mem_filter.1 hq).1
  · exact hq

/-- What is finished under the last number lands, and nothing happens otherwise. -/
theorem finished_cases (d : Desk σ X) (k : Nat) (reply : Except Reply.Failure Analysis) :
    (k ≠ d.hub.store.latest analysisTag ∧ d.finished k reply = d) ∨
      (k = d.hub.store.latest analysisTag ∧
        d.finished k reply = { d with
          hub := .land { d.hub with fault := none } ⟨analysisTag, k, outcome reply⟩ }) := by
  by_cases hk : k = d.hub.store.latest analysisTag
  · right
    exact ⟨hk, by simp [finished, land?, Hub.writeAt?, hk]⟩
  · left
    exact ⟨hk, by simp [finished, land?, Hub.writeAt?, hk]⟩

variable [Listener X Analysis]

/-- A move is a few deeds, or a step of the notices, or it sets a display as an act would. -/
theorem Move.cases {d e : Desk σ X} {a : Act X} (f : d.Fit) (s : Move d a e) :
    Hub.Deeds (Watcher.permit a.landing?) d.hub e.hub ∨
      (∃ b, a = .beat b ∧ Hub.Step d.hub b e.hub) ∨
      ∃ name i x c, a = .control name c ∧ d.place? name = some i ∧ d.hub.shown i = some x ∧
        e.hub = d.hub.alter i (Watcher.mapDisplay fun _ => x.act c) := by
  have clear (tag : Option String) :
      Hub.Deeds (Watcher.permit tag) d.hub { d.hub with fault := none } :=
    .single (.aside rfl rfl rfl rfl)
  cases s with
  | begin => exact .inl (.single (.issue _ _))
  | finish k reply =>
    left
    rcases d.finished_cases k reply with ⟨-, h⟩ | ⟨-, h⟩
    · rw [h]
    · rw [h]
      exact (clear _).tail (.land _ rfl)
  | write tag o => exact .inl ((clear _).trans (Hub.deeds_write _ _ o rfl))
  | control c hx =>
    obtain ⟨i, hi, -⟩ := display?_eq_some hx
    rw [setDisplay_of_place hi]
    exact .inr (.inr ⟨_, i, _, c, rfl, hi, display?_eq_shown hi ▸ hx, rfl⟩)
  | mount name =>
    left
    have hs : Hub.Deeds (Watcher.permit none) d.hub (d.hub.subscribe name (.display {})) :=
      .single (.subscribe _ _ fun x hx => (Option.some.inj hx).symm)
    exact hs.trans (deeds_unmount (d := d.welcome name) f.extra none name)
  | unmount name => exact .inl (deeds_unmount f.extra _ name)
  | serve w => exact .inl .refl
  | ask asker r =>
    exact .inl ((clear _).trans (Hub.deeds_perform _ _ asker (Hub.within_map r) f.slots))
  | step he =>
    rcases Hub.step?_cases he with s | ⟨i, l, r, ha, hb, rfl⟩
    · exact .inr (.inl ⟨_, rfl, s⟩)
    · left
      obtain ⟨q, rfl⟩ := ha.eq_map
      rw [hb]
      exact Hub.deeds_consult _ i (Hub.within_map q) f.slots fun a l => Hub.display?_learn a l

theorem Move.slots {d e : Desk σ X} {a : Act X} (f : d.Fit) (s : Move d a e) :
    ∀ q ∈ e.hub.slots, q.2 ≠ 0 := by
  have hpos : 0 < d.hub.store.subscribers.length := by
    obtain ⟨x, hx⟩ := f.led.first
    exact Hub.lt_of_shown hx
  have asks (h : Hub (Watcher X) Analysis) (hs : h.slots = d.hub.slots)
      (hl : h.store.subscribers = d.hub.store.subscribers) (asker : Option Nat)
      (r : Request (Watcher X) Analysis) : ∀ q ∈ (h.perform asker r).1.slots, q.2 ≠ 0 := by
    intro q hq
    rcases Hub.mem_slots_perform hq with hq | ⟨hq, -⟩
    · exact f.slots q (hs ▸ hq)
    · rw [hq, hl]
      omega
  cases s with
  | begin => exact f.slots
  | finish k reply =>
    rcases d.finished_cases k reply with ⟨-, h⟩ | ⟨-, h⟩
    · rw [h]
      exact f.slots
    · rw [h]
      exact f.slots
  | write tag o => exact f.slots
  | control c hx =>
    obtain ⟨i, hi, -⟩ := display?_eq_some hx
    rw [setDisplay_of_place hi]
    exact f.slots
  | mount name =>
    rw [mount_eq, slots_unmount]
    exact f.slots
  | unmount name =>
    rw [slots_unmount]
    exact f.slots
  | serve w => exact f.slots
  | ask asker r => exact asks { d.hub with fault := none } rfl rfl asker (r.map .other)
  | step he =>
    rcases Hub.step?_cases he with s | ⟨i, l, r, -, -, rfl⟩
    · rw [Hub.slots_step s]
      exact f.slots
    · exact asks d.hub rfl rfl (some i) r

theorem Move.extra {d e : Desk σ X} {a : Act X} (f : d.Fit) (s : Move d a e) :
    ∀ q ∈ e.extra, q.2 ≠ 0 := by
  cases s with
  | finish k reply =>
    rcases d.finished_cases k reply with ⟨-, h⟩ | ⟨-, h⟩
    · rw [h]
      exact f.extra
    · rw [h]
      exact f.extra
  | control c hx =>
    obtain ⟨i, hi, -⟩ := display?_eq_some hx
    rw [setDisplay_of_place hi]
    exact f.extra
  | mount name =>
    intro q hq
    rw [mount_eq] at hq
    rcases Keyed.mem_put hq with hq | rfl
    · exact f.extra q (mem_extra_unmount (d := d.welcome name) hq)
    · obtain ⟨x, hx⟩ := f.led.first
      exact Nat.ne_of_gt (Hub.lt_of_shown hx)
  | unmount name => exact fun q hq => f.extra q (mem_extra_unmount hq)
  | _ => exact f.extra

theorem Fit.move {d e : Desk σ X} {a : Act X} (f : d.Fit) (s : Move d a e) : e.Fit := by
  refine ⟨?_, s.slots f, s.extra f⟩
  rcases s.cases f with h | ⟨b, -, h⟩ | ⟨name, i, x, c, -, -, -, h⟩
  · exact f.led.deeds h
  · exact f.led.step h
  · rw [h]
    exact f.led.alter i _

theorem fit_course {d e : Desk σ X} {as : List (Act X)} (c : Course d as e) (f : d.Fit) : e.Fit :=
  c.keep (fun _ _ _ _ s f => f.move s) f

/-! ## What is true of every display -/

/-- What hearing and acts keep is kept by a move for all displays. -/
theorem Move.displays {P : Display → Prop} (fresh : P {})
    (hear : ∀ x (n : Notice Analysis), P x → P (x.hear n)) (act : ∀ x a, P x → P (x.act a))
    {d e : Desk σ X} {a : Act X} (f : d.Fit) (s : Move d a e)
    (hd : ∀ i x, d.hub.shown i = some x → P x) : ∀ i x, e.hub.shown i = some x → P x := by
  rcases s.cases f with h | ⟨b, -, h⟩ | ⟨name, j, y, c, -, -, hy, h⟩
  · refine h.keep (P := fun h => ∀ i x, h.shown i = some x → P x) (fun m n h hm i x hx => ?_) hd
    rcases Hub.shown_deed h i with hn | ⟨-, hn⟩
    · exact hm i x (hn ▸ hx)
    · rw [hn] at hx
      exact Option.some.inj hx ▸ fresh
  · intro i x hx
    rcases Hub.shown_step h i with hn | ⟨n, hn⟩
    · exact hd i x (hn ▸ hx)
    · rw [hn] at hx
      obtain ⟨y, hy, rfl⟩ := Option.map_eq_some_iff.1 hx
      exact hear y n (hd i y hy)
  · have hp : P (y.act c) := act y c (hd j y hy)
    intro i x hx
    rw [h, Hub.shown_alter] at hx
    by_cases hi : i = j
    · rw [if_pos hi] at hx
      obtain ⟨l, -, hl⟩ := Option.bind_eq_some_iff.1 hx
      cases l with
      | display z =>
        obtain rfl : y.act c = x := Option.some.inj hl
        exact hp
      | other z => cases hl
    · rw [if_neg hi] at hx
      exact hd i x hx

theorem displays_course {P : Display → Prop} (fresh : P {})
    (hear : ∀ x (n : Notice Analysis), P x → P (x.hear n)) (act : ∀ x a, P x → P (x.act a))
    {w : σ} {d : Desk σ X} {as : List (Act X)} (c : Course (start w) as d) {name : String}
    {x : Display} (hx : d.display? name = some x) : P x := by
  have hd := c.keep (P := fun d => d.Fit ∧ ∀ i x, d.hub.shown i = some x → P x)
    (fun m n a _ s hm => ⟨hm.1.move s, s.displays fresh hear act hm.1 hm.2⟩)
    ⟨fit_start w, fun i x hx => by
      cases i with
      | zero => exact Option.some.inj hx ▸ fresh
      | succ i => cases hx⟩
  obtain ⟨i, hi, -⟩ := display?_eq_some hx
  exact hd.2 i x (display?_eq_shown hi ▸ hx)

/-! ## Numbers -/

theorem Act.issued?_of_step {h g : Hub (Watcher X) Analysis} {b : Beat (Watcher X) Analysis}
    (s : Hub.Step h b g) : (Act.beat b : Act X).issued? = none := by
  cases s <;> rfl

/-- Of all acts, exactly those that say so issue a number under a tag. -/
theorem Move.latest {d e : Desk σ X} {a : Act X} (f : d.Fit) (s : Move d a e) (t : String) :
    e.hub.store.latest t
      = d.hub.store.latest t + if a.issued? = some t then 1 else 0 := by
  have ho := f.led.isOpen
  cases s with
  | begin => exact Hub.latest_issue d.hub analysisTag t
  | finish k reply =>
    rcases d.finished_cases k reply with ⟨-, h⟩ | ⟨-, h⟩
    · rw [h]
      rfl
    · rw [h]
      rfl
  | write tag o => exact Hub.latest_issue { d.hub with fault := none } tag t
  | control c hx =>
    obtain ⟨i, hi, -⟩ := display?_eq_some hx
    rw [setDisplay_of_place hi]
    rfl
  | mount name => exact Hub.latest_eq_of_issued (issued_unmount (d.welcome name) name) t
  | unmount name => exact Hub.latest_eq_of_issued (issued_unmount d name) t
  | serve w => rfl
  | ask asker r => exact Hub.latest_perform (h := { d.hub with fault := none }) ho asker _ t
  | step he =>
    rcases Hub.step?_cases he with h | ⟨i, l, r, -, hb, rfl⟩
    · have hn : (Act.beat d.hub.beat : Act X).issued? = none := Act.issued?_of_step h
      simpa [hn] using Hub.latest_eq_of_issued (Hub.issued_step h) t
    · rw [hb]
      exact Hub.latest_perform ho (some i) r t

end Desk
end SchemaBoard
