import SchemaBoard.Proofs.Board.Career
import SchemaBoard.Proofs.Desk.Operation

/-!
# What hangs on a desk

A display of a desk is watched on its way: of every move of the desk it is noted what the display
hears, which tickets it issues, and with which replies tickets are settled. A display that settles
no tickets but its own has a career, whatever else goes on at the desk. Main statements: every
operation can be watched (`Watched.carry`), and `highlights_of_shown_analysis`.
-/
namespace SchemaBoard

open Remote (Service)

variable {σ X : Type}

namespace Display

/-- Whether an act settles a ticket. -/
def Act.isSettling : Act → Bool
  | .finishCode _ _ => true
  | _ => false

theorem Act.ne_finishCode {a : Act} (h : a.isSettling = false) (t : Ticket)
    (reply : Except Reply.Failure String) : a ≠ .finishCode t reply := by
  rintro rfl
  cases h

/-- Something done with a display that settles no ticket but one that it has just issued. -/
def IsOwn {α : Type} (f : Display → σ → Except ControlError (α × Display × σ)) : Prop :=
  ∀ d w r e v, f d w = .ok (r, e, v) → ∃ a : Act, a.isSettling = false ∧
    (e = d.act a ∨ ∃ t reply, .issued t ∈ d.notes a ∧ e = (d.act a).act (.finishCode t reply))

theorem isOwn_beginCode (id : String) :
    IsOwn fun d (w : σ) => (d.beginCode id).map fun (t, e) => (t, e, w) := by
  intro d w r e v h
  obtain ⟨⟨t, m⟩, hb, he⟩ := exists_of_map_ok h
  have he : m = e := congrArg (·.2.1) he
  exact ⟨.beginCode id, rfl, .inl (by simp [act, hb, he])⟩

theorem isOwn_beginRefresh (id : String) :
    IsOwn fun d (w : σ) => (d.beginRefresh id).map fun (t, e) => (t, e, w) := by
  intro d w r e v h
  obtain ⟨⟨t, m⟩, hb, he⟩ := exists_of_map_ok h
  have he : m = e := congrArg (·.2.1) he
  exact ⟨.beginRefresh id, rfl, .inl (by simp [act, hb, he])⟩

theorem isOwn_showCode (s : Service σ) (id : String) :
    IsOwn fun d w => (d.showCode s id w).map fun p => ((), p) := by
  intro d w r e v h
  obtain ⟨p, hp, he⟩ := exists_of_map_ok h
  obtain ⟨⟨t, m⟩, hb, hr⟩ := exists_of_map_ok hp
  obtain rfl : p = (e, v) := congrArg Prod.snd he
  have hact : d.act (.beginCode id) = m := by simp [act, hb]
  cases t with
  | none =>
    have hm : m = e := congrArg Prod.fst hr
    exact ⟨.beginCode id, rfl, .inl (hm.symm.trans hact.symm)⟩
  | some t =>
    have hm : (run s t m w).1 = e := congrArg Prod.fst hr
    rw [run_eq, ← hact] at hm
    exact ⟨.beginCode id, rfl, .inr ⟨t, _, by simp [notes, hb], hm.symm⟩⟩

theorem isOwn_refreshCode (s : Service σ) (id : String) :
    IsOwn fun d w => (d.refreshCode s id w).map fun p => ((), p) := by
  intro d w r e v h
  obtain ⟨p, hp, he⟩ := exists_of_map_ok h
  obtain ⟨⟨t, m⟩, hb, hr⟩ := exists_of_map_ok hp
  obtain rfl : p = (e, v) := congrArg Prod.snd he
  have hact : d.act (.beginRefresh id) = m := by simp [act, hb]
  have hm : (run s t m w).1 = e := congrArg Prod.fst hr
  rw [run_eq, ← hact] at hm
  exact ⟨.beginRefresh id, rfl, .inr ⟨t, _, by simp [notes, hb], hm.symm⟩⟩

theorem isOwn_use (s : Service σ) (id : String) (c : Control) :
    IsOwn fun d w => (d.use s id c w).map fun p => ((), p) := by
  have moved (k : Control) :
      IsOwn fun d (w : σ) => ((d.move id k).map (·, w)).map fun p => ((), p) := by
    intro d w r e v h
    obtain ⟨p, hp, he⟩ := exists_of_map_ok h
    obtain ⟨m, hm, hr⟩ := exists_of_map_ok hp
    obtain rfl : p = (e, v) := congrArg Prod.snd he
    have hm' : m = e := congrArg Prod.fst hr
    exact ⟨.press id k, rfl, .inl (by simp [act, hm, hm'])⟩
  cases c with
  | collapse => exact moved .collapse
  | table => exact moved .table
  | code => exact isOwn_showCode s id

end Display

namespace Desk

open Display (Note Career)

/-- What an act gives to note of the display at a place. -/
def notesAt (i : Nat) (d : Desk σ X) (a : Act X) : List Note :=
  match d.hub.shown i, a with
  | some x, .control name c => if d.place? name = some i then x.notes c else []
  | some _, .beat (.called j _) =>
    if j = i then (d.hub.store.round.map (.heard ·.notice)).toList else []
  | _, _ => []

theorem notesAt_of_shown_none {i : Nat} {d : Desk σ X} (h : d.hub.shown i = none) (a : Act X) :
    notesAt i d a = [] := by
  simp [notesAt, h]

/-- Only controls and calls give anything to note. -/
def Act.isNoted : Act X → Bool
  | .control _ _ => true
  | .beat (.called _ _) => true
  | _ => false

theorem notesAt_eq_nil {a : Act X} (ha : a.isNoted = false) (i : Nat) (d : Desk σ X) :
    notesAt i d a = [] := by
  unfold notesAt
  split
  · cases ha
  · cases ha
  · rfl

/-- What a control does to the display at a place. -/
theorem shown_control {d : Desk σ X} {name : String} {y : Display} (hy : d.display? name = some y)
    (c : Display.Act) {i : Nat} {x : Display} (hx : d.hub.shown i = some x) :
    (notesAt i d (.control name c) = [] ∧ (d.setDisplay name (y.act c)).hub.shown i = some x) ∨
      (notesAt i d (.control name c) = x.notes c ∧
        (d.setDisplay name (y.act c)).hub.shown i = some (x.act c)) := by
  obtain ⟨j, hj, -⟩ := display?_eq_some hy
  rw [display?_eq_shown hj] at hy
  rw [setDisplay_of_place hj, Hub.shown_alter]
  by_cases hi : i = j
  · subst hi
    obtain rfl : x = y := Option.some.inj (hx.symm.trans hy)
    obtain ⟨l, hl, hd⟩ := Option.bind_eq_some_iff.1 hx
    refine .inr ⟨by simp [notesAt, hx, hj], ?_⟩
    rw [if_pos rfl, hl]
    cases l with
    | display z => rfl
    | other z => cases hd
  · exact .inl ⟨by simp [notesAt, hx, hj, Ne.symm hi], by rw [if_neg hi, hx]⟩

variable [Listener X Analysis]

/-- The ways of a desk on which the display at a place settles no tickets but its own, with the
notes on it. -/
inductive Watched (i : Nat) : List Note → Desk σ X → Prop where
  | start (w : σ) : Watched i [] (start w)
  | move {ns : List Note} {d e : Desk σ X} {a : Act X} (h : Watched i ns d) (s : Move d a e)
      (own : ∀ t reply, .settled t reply ∈ notesAt i d a → .issued t ∈ ns) :
      Watched i (ns ++ notesAt i d a) e

/-- What a call does to the display at a place. -/
theorem shown_step_notesAt {d : Desk σ X} {g : Hub (Watcher X) Analysis}
    {b : Beat (Watcher X) Analysis} (s : Hub.Step d.hub b g) {i : Nat} {x : Display}
    (hx : d.hub.shown i = some x) :
    (notesAt i d (.beat b) = [] ∧ g.shown i = some x) ∨
      ∃ n, notesAt i d (.beat b) = [.heard n] ∧ g.shown i = some (x.hear n) := by
  cases s with
  | @call n j waiting hr =>
    rw [Hub.shown_call]
    by_cases hi : i = j
    · subst hi
      exact .inr ⟨n, by simp [notesAt, hx, hr], by rw [if_pos rfl, hx]; rfl⟩
    · exact .inl ⟨by simp [notesAt, hx, Ne.symm hi], by rw [if_neg hi, hx]⟩
  | _ => exact .inl ⟨by simp [notesAt, hx], hx⟩

/-- A display is left alone by acts that give nothing to note. -/
theorem Move.shown_of_quiet {d e : Desk σ X} {a : Act X} (f : d.Fit) (s : Move d a e)
    (ha : a.isNoted = false) {i : Nat} {x : Display} (hx : d.hub.shown i = some x) :
    e.hub.shown i = some x := by
  rcases s.cases f with h | ⟨b, rfl, h⟩ | ⟨name, j, y, c, rfl, -⟩
  · exact Hub.shown_deeds h hx
  · rcases shown_step_notesAt h hx with ⟨-, hs⟩ | ⟨n, hn, -⟩
    · exact hs
    · rw [notesAt_eq_nil ha] at hn
      cases hn
  · cases ha

/-- What a move does to a display is what is noted of it. -/
theorem Move.shown_notesAt {d e : Desk σ X} {a : Act X} (f : d.Fit) (s : Move d a e) {i : Nat}
    {x : Display} (hx : d.hub.shown i = some x) :
    (notesAt i d a = [] ∧ e.hub.shown i = some x) ∨
      (∃ n, notesAt i d a = [.heard n] ∧ e.hub.shown i = some (x.hear n)) ∨
      ∃ c, notesAt i d a = x.notes c ∧ e.hub.shown i = some (x.act c) := by
  cases ha : a.isNoted with
  | false => exact .inl ⟨notesAt_eq_nil ha i d, s.shown_of_quiet f ha hx⟩
  | true =>
    cases s with
    | control c hy =>
      rcases shown_control hy c hx with h | h
      · exact .inl h
      · exact .inr (.inr ⟨c, h⟩)
    | step he =>
      rcases Hub.step?_cases he with s | ⟨j, l, r, -, hb, -⟩
      · rcases shown_step_notesAt s hx with h | h
        · exact .inl h
        · exact .inr (.inl h)
      · rw [hb] at ha
        cases ha
    | _ => cases ha

/-- A display that comes is fresh. -/
theorem Move.fresh {d e : Desk σ X} {a : Act X} (f : d.Fit) (s : Move d a e) {i : Nat}
    (hd : d.hub.shown i = none) {x : Display} (hx : e.hub.shown i = some x) : x = {} := by
  rcases s.cases f with h | ⟨b, -, h⟩ | ⟨name, j, y, c, -, -, hy, h⟩
  · refine h.keep (P := fun g => ∀ x, g.shown i = some x → x = {}) (fun m n k hm x hx => ?_)
      (fun x hx => by rw [hd] at hx; cases hx) x hx
    rcases Hub.shown_deed k i with hs | ⟨-, hs⟩
    · exact hm x (hs ▸ hx)
    · exact (Option.some.inj (hs.symm.trans hx)).symm
  · rcases Hub.shown_step h i with hs | ⟨n, hs⟩
    · rw [hs, hd] at hx
      cases hx
    · rw [hs, hd] at hx
      cases hx
  · have hi : i ≠ j := by
      rintro rfl
      rw [hd] at hy
      cases hy
    rw [h, Hub.shown_alter, if_neg hi, hd] at hx
    cases hx

namespace Watched

variable {i : Nat} {ns : List Note} {d e : Desk σ X}

theorem fit (h : Watched i ns d) : d.Fit := by
  induction h with
  | start w => exact fit_start w
  | move _ s _ ih => exact ih.move s

/-- The notes on a display are its career; before it is put up there are none. -/
theorem career (h : Watched i ns d) :
    (∀ x, d.hub.shown i = some x → Career ns x) ∧ (d.hub.shown i = none → ns = []) := by
  induction h with
  | start w =>
    refine ⟨fun x hx => ?_, fun _ => rfl⟩
    cases i with
    | zero =>
      obtain rfl := Option.some.inj hx
      exact .fresh
    | succ i => cases hx
  | @move ns d e a h s own ih =>
    cases hd : d.hub.shown i with
    | none =>
      rw [ih.2 hd, notesAt_of_shown_none hd]
      refine ⟨fun x hx => ?_, fun _ => rfl⟩
      rw [s.fresh h.fit hd hx]
      exact .fresh
    | some x =>
      have c := ih.1 x hd
      rcases s.shown_notesAt h.fit hd with ⟨hn, hs⟩ | ⟨n, hn, hs⟩ | ⟨k, hn, hs⟩
      · rw [hn, hs]
        refine ⟨fun y hy => ?_, nofun⟩
        obtain rfl := Option.some.inj hy
        simpa using c
      · rw [hn, hs]
        refine ⟨fun y hy => ?_, nofun⟩
        obtain rfl := Option.some.inj hy
        exact c.hear n
      · rw [hn] at own ⊢
        rw [hs]
        refine ⟨fun y hy => ?_, nofun⟩
        obtain rfl := Option.some.inj hy
        exact c.act k fun t reply hk => own t reply (by simp [hk, Display.notes])

/-- Acts that give nothing to note are watched. -/
theorem quiet (h : Watched i ns d) {a : Act X} (s : Move d a e) (ha : a.isNoted = false) :
    Watched i ns e := by
  have hn : notesAt i d a = [] := notesAt_eq_nil ha i d
  have hm := h.move s fun t reply ht => by
    rw [hn] at ht
    cases ht
  rwa [hn, List.append_nil] at hm

/-- A control whose notes are known is watched. -/
theorem control (h : Watched i ns d) {name : String} {x : Display}
    (hx : d.display? name = some x) (a : Display.Act)
    (own : ∀ t reply, a = .finishCode t reply → d.place? name = some i → .issued t ∈ ns) :
    Watched i (ns ++ if d.place? name = some i then x.notes a else [])
      (d.setDisplay name (x.act a)) := by
  obtain ⟨j, hj, -⟩ := display?_eq_some hx
  have hs : d.hub.shown j = some x := (display?_eq_shown hj).symm.trans hx
  have hn : notesAt i d (.control name a) = if d.place? name = some i then x.notes a else [] := by
    by_cases hi : d.place? name = some i
    · obtain rfl := Option.some.inj (hj.symm.trans hi)
      simp [notesAt, hs, hi]
    · cases hs' : d.hub.shown i <;> simp [notesAt, hs', hi]
  rw [← hn]
  refine h.move (.control d a hx) fun t reply ht => ?_
  rw [hn] at ht
  by_cases hi : d.place? name = some i
  · rw [if_pos hi] at ht
    exact own t reply (Display.eq_finishCode_of_settled ht) hi
  · rw [if_neg hi] at ht
    cases ht

/-- What is done with a display, and settles no ticket but one that it has just issued, is watched.
-/
theorem operate (h : Watched i ns d) {α : Type} {name : String}
    {f : Display → σ → Except ControlError (α × Display × σ)} (hf : Display.IsOwn f)
    {r : Except ControlError α} (he : d.operate name f = some (r, e)) :
    ∃ ks, Watched i (ns ++ ks) e := by
  obtain ⟨x, hx, he⟩ := Option.map_eq_some_iff.1 he
  cases hr : f x d.service with
  | error m =>
    rw [hr] at he
    obtain rfl : d = e := congrArg Prod.snd he
    exact ⟨[], by simpa using h⟩
  | ok p =>
    obtain ⟨v, y, w⟩ := p
    rw [hr] at he
    obtain rfl : { d.setDisplay name y with service := w } = e := congrArg Prod.snd he
    obtain ⟨a, quiet, hy⟩ := hf _ _ _ _ _ hr
    have first := h.control hx a fun t q ha => absurd ha (Display.Act.ne_finishCode quiet t q)
    rcases hy with rfl | ⟨t, reply, ht, rfl⟩
    · exact ⟨_, first.quiet (.serve _ w) rfl⟩
    · obtain ⟨j, hj, -⟩ := display?_eq_some hx
      -- The display stands where it stood, so the ticket was noted there if it is watched at all.
      have own (u : Ticket) (q : Except Reply.Failure String)
          (hu : Display.Act.finishCode t reply = .finishCode u q)
          (hi : (d.setDisplay name (x.act a)).place? name = some i) :
          .issued u ∈ ns ++ if d.place? name = some i then x.notes a else [] := by
        have hp : d.place? name = some i := by
          rwa [place?_setDisplay hj, ← hj] at hi
        obtain ⟨rfl, -⟩ := Display.Act.finishCode.inj hu
        rw [if_pos hp]
        exact List.mem_append_right _ ht
      have second := first.control (display?_setDisplay _ hx) (.finishCode t reply) own
      rw [setDisplay_setDisplay hx, List.append_assoc] at second
      exact ⟨_, second.quiet (.serve _ w) rfl⟩

/-- What is noted in so many steps. -/
def notesIn (i : Nat) : Nat → Desk σ X → List Note
  | 0, _ => []
  | k + 1, d =>
    match d.hub.step? with
    | none => []
    | some g => notesAt i d (.beat d.hub.beat) ++ notesIn i k { d with hub := g }

theorem step (h : Watched i ns d) {g : Hub (Watcher X) Analysis} (e : d.hub.step? = some g) :
    Watched i (ns ++ notesAt i d (.beat d.hub.beat)) { d with hub := g } := by
  refine h.move (.step d e) fun t reply ht => ?_
  unfold notesAt at ht
  split at ht
  · rename_i hb
    cases hb
  · split at ht
    · cases d.hub.store.round <;> simp at ht
    · cases ht
  · cases ht

/-- The notices go their way, and all is noted. -/
theorem advance (h : Watched i ns d) (k : Nat) :
    Watched i (ns ++ notesIn i k d) { d with hub := Hub.advance k d.hub } := by
  induction k generalizing ns d with
  | zero => simpa [notesIn] using h
  | succ k ih =>
    cases e : d.hub.step? with
    | none => simpa [notesIn, Hub.advance, e] using h
    | some g => simpa [notesIn, Hub.advance, e] using ih (h.step e)

theorem still (h : Watched i ns d) : ∃ ks, Watched i (ns ++ ks) d := ⟨[], by simpa using h⟩

/-- What is done with a display by name, if there is one, is watched. -/
theorem controlled (h : Watched i ns d) {α : Type} (name : String)
    {f : Display → σ → Except ControlError (α × Display × σ)} (hf : Display.IsOwn f) :
    ∃ ks, Watched i (ns ++ ks) (d.control name f) := by
  cases hx : d.operate name f with
  | none => simpa [Desk.control, hx] using h.still
  | some p => simpa [Desk.control, hx] using h.operate hf hx

/-- The notices go their way to the end, and all is noted. -/
theorem settle [Bounded X Analysis] (h : Watched i ns d) :
    ∃ ks, Watched i (ns ++ ks) { d with hub := d.hub.settle } := by
  obtain ⟨k, hk⟩ := Hub.settle_eq_advance d.hub
  rw [hk]
  exact ⟨_, h.advance k⟩

theorem finish [Bounded X Analysis] (h : Watched i ns d) (k : Nat)
    (reply : Except Reply.Failure Analysis) : ∃ ks, Watched i (ns ++ ks) (d.finish k reply).2 := by
  have landed := h.quiet (.finish d k reply) rfl
  cases hl : d.land? k reply with
  | none => simpa [Desk.finish, hl] using h.still
  | some e => simpa [Desk.finish, finished, hl] using landed.settle

/-- Whatever is done with a desk is watched, if the display settles none but its own tickets. -/
theorem carry [Bounded X Analysis] (h : Watched i ns d) (s : Service σ) (op : Op X)
    (own : ∀ name t reply, op = .finishCode name t reply → d.place? name = some i →
      .issued t ∈ ns) : ∃ ks, Watched i (ns ++ ks) (op.carry s d) := by
  cases op with
  | begin => exact (h.quiet (.begin d) rfl).still
  | finish k reply => exact h.finish k reply
  | upload f =>
    by_cases accepted : f.isAccepted = true
    · have sent := (h.quiet (.begin d) rfl).quiet (.serve _ (s.analyse d.begin.2.service f).2) rfl
      have answered := sent.finish d.begin.1 (s.analyse d.begin.2.service f).1
      simpa [Op.carry, upload, accepted] using answered
    · simpa [Op.carry, upload, accepted] using h.still
  | write tag o => exact (h.quiet (.write d tag o) rfl).settle
  | use name id c => exact h.controlled name (Display.isOwn_use s id c)
  | refreshCode name id => exact h.controlled name (Display.isOwn_refreshCode s id)
  | beginCode name id => exact h.controlled name (Display.isOwn_beginCode id)
  | beginRefresh name id => exact h.controlled name (Display.isOwn_beginRefresh id)
  | finishCode name t reply =>
    cases hx : d.display? name with
    | none =>
      have same : (Op.finishCode name t reply).carry s d = d := by
        simp [Op.carry, Desk.control, Desk.operate, hx]
      rw [same]
      exact h.still
    | some x =>
      have settled := h.control hx (.finishCode t reply) fun u q hu hi => by
        obtain ⟨rfl, -⟩ := Display.Act.finishCode.inj hu
        exact own name t reply rfl hi
      have there : (Op.finishCode name t reply).carry s d
          = { d.setDisplay name (x.act (.finishCode t reply)) with service := d.service } := by
        simp [Op.carry, Desk.control, Desk.operate, hx, Display.act]
      rw [there]
      exact ⟨_, settled.quiet (.serve _ d.service) rfl⟩
  | mount name => exact (h.quiet (.mount d name) rfl).still
  | unmount name => exact (h.quiet (.unmount d name) rfl).still
  | ask o =>
    cases o with
    | fail m => exact h.still
    | ask r =>
      rw [Op.carry, ask_snd]
      exact (h.quiet (.ask d none r) rfl).settle

end Watched

/-- On any way of a desk, what hangs for a model of a display is the cleaned code of a successful
reply to a ticket for that model, which was issued after the display was last reset, and which asks
for the stretch of the first model of that id in the text of the analysis on show. A ticket that was
issued before the last reset settles nothing and changes nothing. And every operation goes on on
such a way, if it settles no ticket at this display but one that the display issued. -/
theorem highlights_of_shown_analysis {i : Nat} {ns : List Note} {d : Desk σ X}
    (h : Watched i ns d) {x : Display} (hx : d.hub.shown i = some x) :
    (∀ id html, x.gallery.get? id = some html → ∃ t code,
      .issued t ∈ Display.current ns ∧ .settled t (.ok code) ∈ Display.current ns ∧
      t.id = id ∧ html = Html.clean code ∧
      ∃ a m, x.analysis = some a ∧ a.model? id = some m ∧ t.request = ⟨m.span, a.schema⟩) ∧
    (∀ t, .issued t ∈ Display.past ns → ∀ reply, x.finishCode t reply = (none, x)) ∧
    ∀ [Bounded X Analysis] (s : Service σ) (op : Op X),
      (∀ name t reply, op = .finishCode name t reply → d.place? name = some i → .issued t ∈ ns) →
      ∃ ks, Watched i (ns ++ ks) (op.carry s d) := by
  have f := (h.career.1 x hx).faithful
  refine ⟨?_, ?_, fun s op own => h.carry s op own⟩
  · intro id html hh
    obtain ⟨t, code, ht, hs, rfl, he⟩ := f.hung id html hh
    exact ⟨t, code, ht, hs, rfl, he, (f.valid t ht).2⟩
  · intro t ht reply
    have hg : t.generation ≠ x.gallery.generation := Nat.ne_of_lt (f.void t ht)
    simp [Display.finishCode, Gallery.settle, hg]

/-! ## A reply that comes after its analysis has been replaced -/

/-- An analysis with one model, which is found at the start of the text. -/
def oneModel (schema : String) : Analysis := ⟨schema, [⟨"m", "M", ⟨0, 5⟩, [], ""⟩]⟩

/-- A ticket for this model. -/
def modelTicket (schema : String) (generation : Nat) : Ticket :=
  ⟨"m", ⟨⟨0, 5⟩, schema⟩, generation⟩

/-- A display that has been reset so many times and shows such an analysis. -/
def showing (schema : String) (generation : Nat) : Display :=
  { analysis := some (oneModel schema), gallery := ⟨[], generation⟩ }

def firstLanding : Desk Unit Empty := (start ()).wrote analysisTag (.success (oneModel "first"))

/-- The code of the first analysis has been asked for. -/
def firstAsked : Desk Unit Empty :=
  setDisplay { firstLanding with hub := Hub.advance 10 firstLanding.hub } mainName
    ((showing "first" 1).act (.beginCode "m"))

def secondLanding : Desk Unit Empty := firstAsked.wrote analysisTag (.success (oneModel "second"))

/-- What is done after the second analysis has landed: the code is asked for, the reply that is late
comes, and then the one that was asked for. -/
def lateActs : List Display.Act :=
  [.beginCode "m", .finishCode (modelTicket "first" 1) (.ok "late"),
    .finishCode (modelTicket "second" 2) (.ok "code")]

def lateAnswered : Desk Unit Empty :=
  setDisplay { secondLanding with hub := Hub.advance 10 secondLanding.hub } mainName
    ((showing "second" 2).acts lateActs)

def lateNotes : List Note :=
  [.heard ⟨analysisTag, 1, .success (oneModel "first")⟩, .issued (modelTicket "first" 1),
    .heard ⟨analysisTag, 2, .success (oneModel "second")⟩, .issued (modelTicket "second" 2),
    .settled (modelTicket "first" 1) (.ok "late"), .settled (modelTicket "second" 2) (.ok "code")]

theorem watched_lateAnswered : Watched 0 lateNotes lateAnswered := by
  have first : Watched 0 (lateNotes.take 1)
      { firstLanding with hub := Hub.advance 10 firstLanding.hub } :=
    ((Watched.start ()).quiet (.write _ analysisTag _) rfl).advance 10
  have asked : Watched 0 (lateNotes.take 2) firstAsked :=
    first.control (show _ = some (showing "first" 1) from display?_main _) (.beginCode "m")
      fun t q h => absurd h (Display.Act.ne_finishCode rfl t q)
  have second : Watched 0 (lateNotes.take 3)
      { secondLanding with hub := Hub.advance 10 secondLanding.hub } :=
    (asked.quiet (.write _ analysisTag _) rfl).advance 10
  have again : Watched 0 (lateNotes.take 4) _ :=
    second.control (show _ = some (showing "second" 2) from display?_main _) (.beginCode "m")
      fun t q h => absurd h (Display.Act.ne_finishCode rfl t q)
  have late : Watched 0 (lateNotes.take 5) _ :=
    again.control (display?_setDisplay _ (display?_main _))
      (.finishCode (modelTicket "first" 1) (.ok "late")) fun t _ ht _ => by
        obtain ⟨rfl, -⟩ := Display.Act.finishCode.inj ht
        simp [lateNotes]
  exact late.control (display?_setDisplay _ (display?_setDisplay _ (display?_main _)))
    (.finishCode (modelTicket "second" 2) (.ok "code")) fun t _ ht _ => by
      obtain ⟨rfl, -⟩ := Display.Act.finishCode.inj ht
      simp [lateNotes]

/-- The reply for the second analysis hangs, and the ticket of the first settles nothing any more. -/
theorem highlights_after_replacement : ∃ x, lateAnswered.hub.shown 0 = some x ∧
    x.gallery.get? "m" = some (Html.clean "code") ∧
    (∃ t code, .settled t (.ok code) ∈ Display.current lateNotes ∧
      Html.clean "code" = Html.clean code ∧ t.request = ⟨⟨0, 5⟩, "second"⟩) ∧
    x.finishCode (modelTicket "first" 1) (.ok "late") = (none, x) := by
  have hx : lateAnswered.hub.shown 0 = some ((showing "second" 2).acts lateActs) := rfl
  have hung : ((showing "second" 2).acts lateActs).gallery.get? "m" = some (Html.clean "code") :=
    rfl
  have early : .issued (modelTicket "first" 1) ∈ Display.past lateNotes := by
    simp [Display.past, lateNotes, List.rdropWhile, Display.Note.isReset]
  obtain ⟨only, void, -⟩ := highlights_of_shown_analysis watched_lateAnswered hx
  obtain ⟨t, code, -, hs, -, he, a, m, ha, hm, hr⟩ := only "m" _ hung
  obtain rfl : oneModel "second" = a := Option.some.inj ha
  obtain rfl : ⟨"m", "M", ⟨0, 5⟩, [], ""⟩ = m := Option.some.inj hm
  exact ⟨_, hx, hung, ⟨t, code, hs, he, hr⟩, void _ early _⟩

end Desk
end SchemaBoard
