import SchemaBoard.Proofs.Desk.Invariant
import SchemaBoard.Store.Script

/-!
# The display and the store

The display of a desk is told of what lands, so it may be behind the store while notices are on
their way. What it will show once it has heard the notices that are still out for it is always what
the store keeps: that is the invariant, and when all is quiet the two agree. Main statement:
`display_agrees_with_store`.
-/
namespace SchemaBoard

variable {L V σ X : Type}

namespace Hub

/-- The notices that are still out for a listener. -/
def unheard (h : Hub L V) (i : Nat) : List (Notice V) :=
  match h.store.round with
  | some r => if i ∈ r.waiting then r.notice :: h.store.pending else h.store.pending
  | none => h.store.pending

theorem unheard_of_isIdle {h : Hub L V} (hq : h.store.isIdle = true) (i : Nat) :
    h.unheard i = [] := by
  simp only [Store.isIdle, Bool.and_eq_true, Option.isNone_iff_eq_none, List.isEmpty_iff] at hq
  simp [unheard, hq.1, hq.2]

@[simp] theorem unheard_land (h : Hub L V) (n : Notice V) (i : Nat) :
    (h.land n).unheard i = h.unheard i ++ [n] := by
  simp only [unheard, land, Store.land]
  cases h.store.round with
  | none => rfl
  | some r => by_cases hi : i ∈ r.waiting <;> simp [hi]

/-- A deed that is not a landing adds neither an entry nor a notice. -/
theorem unheard_deed {p : Permit L} {h g : Hub L V} (d : Deed p h g) :
    (∀ i, g.unheard i = h.unheard i) ∧ g.store.entries = h.store.entries ∨
      ∃ n, p.land n.tag ∧ g = h.land n := by
  cases d with
  | land hn => exact .inr ⟨_, hn, rfl⟩
  | aside hs hl hh hp =>
    left
    refine ⟨fun i => ?_, by rw [hs]⟩
    unfold unheard
    rw [hs]
  | _ => exact .inl ⟨fun _ => rfl, rfl⟩

section Steps

variable {h : Hub L V} {n : Notice V} {i : Nat} {waiting : List Nat}

theorem unheard_start {others : List (Notice V)} (hr : h.store.round = none)
    (hp : h.store.pending = n :: others) (hi : i ∈ h.store.listeners) :
    (h.start n others).unheard i = h.unheard i := by
  simp [unheard, start, hr, hp, hi]

theorem unheard_close (hr : h.store.round = some ⟨n, none, []⟩) :
    (h.setRound none).unheard i = h.unheard i := by
  simp [unheard, setRound, hr]

theorem unheard_pass {j : Nat} (hr : h.store.round = some ⟨n, some j, waiting⟩) :
    (h.setRound (some ⟨n, none, waiting⟩)).unheard i = h.unheard i := by
  simp [unheard, setRound, hr]

variable [Listener L V]

theorem unheard_call_self (hr : h.store.round = some ⟨n, none, i :: waiting⟩) (hi : i ∉ waiting) :
    h.unheard i = n :: (h.call n i waiting).unheard i := by
  simp [unheard, call, note, setRound, alter, Store.alter, hr, hi]

theorem unheard_call_of_ne {j : Nat} (hr : h.store.round = some ⟨n, none, j :: waiting⟩)
    (hj : i ≠ j) : (h.call n j waiting).unheard i = h.unheard i := by
  simp [unheard, call, note, setRound, alter, Store.alter, hr, hj]

theorem entries_step {g : Hub L V} {b : Beat L V} (s : Step h b g) :
    g.store.entries = h.store.entries := by
  cases s <;> rfl

end Steps

/-- To the first display a step is nothing, or the next notice that is out for it, or the loss of
all that is. -/
theorem Step.cases_first [Listener X Analysis] {h g : Hub (Watcher X) Analysis}
    {b : Beat (Watcher X) Analysis} (s : Step h b g) (f : Led h) :
    (g.unheard 0 = h.unheard 0 ∧ g.shown 0 = h.shown 0) ∨
      (∃ n, h.unheard 0 = n :: g.unheard 0 ∧ g.shown 0 = (h.shown 0).map (·.hear n)) ∨
      (b.isFailed = true ∧ g.unheard 0 = [] ∧ g.shown 0 = h.shown 0) := by
  cases s with
  | start hr hp =>
    obtain ⟨rest, hl, -⟩ := f.listeners
    exact .inl ⟨unheard_start hr hp (by simp [hl]), rfl⟩
  | close hr => exact .inl ⟨unheard_close hr, rfl⟩
  | @call n i waiting hr =>
    by_cases hi : 0 = i
    · subst hi
      rcases f.round _ hr with hw | ⟨-, rest, hw, hm⟩
      · exact absurd List.mem_cons_self hw
      · obtain ⟨-, rfl⟩ := List.cons.inj hw
        exact .inr (.inl ⟨n, unheard_call_self hr hm, by rw [shown_call, if_pos rfl]⟩)
    · exact .inl ⟨unheard_call_of_ne hr hi, by rw [shown_call, if_neg hi]⟩
  | pass hr => exact .inl ⟨unheard_pass hr, rfl⟩
  | fail message hr => exact .inr (.inr ⟨rfl, rfl, rfl⟩)

/-- What a display will show once it has heard what is still out for it. -/
def prospect (h : Hub (Watcher X) Analysis) (x : Display) : Option Analysis :=
  match lastUnder analysisTag (h.unheard 0) with
  | some n => n.entry.outcome.value?
  | none => x.analysis

/-- The first display will show what the store keeps. -/
def Coherent (h : Hub (Watcher X) Analysis) : Prop :=
  ∀ x, h.shown 0 = some x → h.prospect x = h.store.value analysisTag

namespace Coherent

variable {h g : Hub (Watcher X) Analysis}

theorem of_eq {x y : Display} (hx : h.shown 0 = some x) (hy : g.shown 0 = some y)
    (hs : y.analysis = x.analysis)
    (hu : lastUnder analysisTag (g.unheard 0) = lastUnder analysisTag (h.unheard 0))
    (he : g.store.entries = h.store.entries) (c : Coherent h) : Coherent g := by
  intro z hz
  obtain rfl : y = z := Option.some.inj (hy.symm.trans hz)
  have hv : g.store.value analysisTag = h.store.value analysisTag := by
    simp [Store.value, Store.read, he]
  rw [hv, ← c x hx]
  unfold prospect
  rw [hu, hs]

/-- An entry that lands under the tag of analyses makes display and store agree in any case. -/
theorem land_self (h : Hub (Watcher X) Analysis) (e : Entry Analysis) :
    Coherent (h.land ⟨analysisTag, e⟩) := by
  intro x hx
  have hr : (h.land ⟨analysisTag, e⟩).store.read analysisTag = some e :=
    Store.read_land h.store ⟨analysisTag, e⟩
  have hl := lastUnder_append_self (h.unheard 0) (⟨analysisTag, e⟩ : Notice Analysis)
  unfold prospect
  rw [unheard_land, Store.value, hr, hl]
  rfl

/-- When all is quiet the display shows what the store keeps. -/
theorem analysis_eq (c : Coherent h) (hq : h.store.isIdle = true) {x : Display}
    (hx : h.shown 0 = some x) : x.analysis = h.store.value analysisTag := by
  have hc := c x hx
  unfold prospect at hc
  rw [unheard_of_isIdle hq] at hc
  exact hc

theorem land {n : Notice Analysis} (c : Coherent h) : Coherent (h.land n) := by
  by_cases ht : n.tag = analysisTag
  · obtain ⟨tag, e⟩ := n
    obtain rfl : tag = analysisTag := ht
    exact land_self h e
  · intro x hx
    have hr : (h.land n).store.read analysisTag = h.store.read analysisTag :=
      Store.read_land_of_ne h.store n (Ne.symm ht)
    unfold prospect
    rw [unheard_land, lastUnder_append_of_ne _ ht, Store.value, hr]
    exact c x hx

theorem deed {tag : Option String} (d : Deed (Watcher.permit tag) h g) (f : Led h)
    (c : Coherent h) : Coherent g := by
  rcases unheard_deed d with ⟨hu, he⟩ | ⟨n, -, rfl⟩
  · obtain ⟨x, hx⟩ := f.first
    exact c.of_eq hx (shown_deeds (.single d) hx) rfl (by rw [hu]) he
  · exact c.land

theorem deeds {tag : Option String} (d : Deeds (Watcher.permit tag) h g) (f : Led h)
    (c : Coherent h) : Coherent g :=
  (d.keep (P := fun h => Led h ∧ Coherent h)
    (fun _ _ d k => ⟨k.1.deed d, k.2.deed d k.1⟩) ⟨f, c⟩).2

theorem alter (f : Led h) (c : Coherent h) {i : Nat} {x y : Display} (hx : h.shown i = some x)
    (hs : y.analysis = x.analysis) : Coherent (h.alter i (Watcher.mapDisplay fun _ => y)) := by
  obtain ⟨z, hz⟩ := f.first
  by_cases hi : 0 = i
  · subst hi
    obtain ⟨l, hl, hd⟩ := Option.bind_eq_some_iff.1 hx
    have hy : (h.alter 0 (Watcher.mapDisplay fun _ => y)).shown 0 = some y := by
      cases l with
      | display x => simp [shown_alter, hl, Watcher.mapDisplay, Watcher.display?]
      | other x => cases hd
    exact c.of_eq hx hy hs rfl rfl
  · have hy : (h.alter i (Watcher.mapDisplay fun _ => y)).shown 0 = some z := by
      rw [shown_alter, if_neg hi, hz]
    exact c.of_eq hz hy rfl rfl rfl

/-- When the display hears the next notice that is out for it, what it will show stays the same. -/
theorem hear {n : Notice Analysis} (hu : h.unheard 0 = n :: g.unheard 0)
    (hs : g.shown 0 = (h.shown 0).map (·.hear n)) (he : g.store.entries = h.store.entries)
    (c : Coherent h) : Coherent g := by
  intro y hy
  rw [hs] at hy
  obtain ⟨x, hx, rfl⟩ := Option.map_eq_some_iff.1 hy
  have hv : g.store.value analysisTag = h.store.value analysisTag := by
    simp [Store.value, Store.read, he]
  have hc := c x hx
  unfold prospect at hc ⊢
  rw [hu, lastUnder_cons, ← hv] at hc
  -- A later analysis hides this notice, so what it does to the display matters only without one.
  cases hl : lastUnder analysisTag (g.unheard 0) with
  | some m =>
    rw [hl] at hc
    exact hc
  | none =>
    rw [hl] at hc
    by_cases ht : n.tag = analysisTag
    · simp only [ht, if_true, Option.none_or] at hc
      simp only [Display.hear, ht, if_true, Display.reset]
      exact hc
    · simp only [ht, if_false, Option.none_or] at hc
      simp only [Display.hear, ht, if_false]
      exact hc

variable [Listener X Analysis]

/-- A step keeps what the display will show, unless a listener fails while an analysis is still out
for the display. -/
theorem step {b : Beat (Watcher X) Analysis} (s : Step h b g) (f : Led h)
    (hb : b.isFailed = true → lastUnder analysisTag (h.unheard 0) = none) (c : Coherent h) :
    Coherent g := by
  obtain ⟨x, hx⟩ := f.first
  rcases s.cases_first f with ⟨hu, hs⟩ | ⟨n, hu, hs⟩ | ⟨hf, hu, hs⟩
  · exact c.of_eq hx (hs.trans hx) rfl (by rw [hu]) (entries_step s)
  · exact c.hear hu hs (entries_step s)
  · refine c.of_eq hx (hs.trans hx) rfl ?_ (entries_step s)
    rw [hu, hb hf]
    rfl

end Coherent
end Hub

namespace Desk

theorem coherent_start (w : σ) : (start w : Desk σ X).hub.Coherent := by
  intro x hx
  obtain rfl : {} = x := Option.some.inj hx
  rfl

/-- Another file is asked for if the store keeps an analysis. -/
theorem offer_eq_uploadAnother_iff (d : Desk σ X) :
    d.offer = .uploadAnother ↔ ∃ a, d.hub.store.value analysisTag = some a := by
  unfold offer read Store.value
  cases d.hub.store.read analysisTag with
  | none => simp
  | some e =>
    obtain ⟨k, o⟩ := e
    cases o <;> simp [Outcome.isSuccess, Outcome.value?]

variable [Listener X Analysis]

/-- A move keeps display and store in step, unless a listener fails while an analysis is still out
for the display. -/
theorem Move.coherent {d e : Desk σ X} {a : Act X} (f : d.Fit) (s : Move d a e)
    (ha : a.isFailed = true → lastUnder analysisTag (d.hub.unheard 0) = none)
    (c : d.hub.Coherent) : e.hub.Coherent := by
  rcases s.cases f with h | ⟨b, rfl, h⟩ | ⟨name, i, x, k, -, -, hx, h⟩
  · exact c.deeds h f.led
  · exact c.step h f.led ha
  · rw [h]
    exact c.alter f.led hx (Display.analysis_act x k)

/-- What the first display shows is safe from everything but its own controls while no analysis is
out for it and none lands. -/
theorem Move.undisturbed {d e : Desk σ X} {a : Act X} (f : d.Fit) (s : Move d a e)
    (hl : a.landing? ≠ some analysisTag) (hc : a.controls mainName = false)
    (hu : ∀ n ∈ d.hub.unheard 0, n.tag ≠ analysisTag) :
    (∀ n ∈ e.hub.unheard 0, n.tag ≠ analysisTag) ∧ e.hub.shown 0 = d.hub.shown 0 := by
  obtain ⟨x, hx⟩ := f.led.first
  rcases s.cases f with h | ⟨b, -, h⟩ | ⟨name, i, y, k, rfl, hi, -, h⟩
  · refine ⟨?_, by rw [hx, Hub.shown_deeds h hx]⟩
    refine h.keep (P := fun g => ∀ n ∈ g.unheard 0, n.tag ≠ analysisTag) (fun m g d hm => ?_) hu
    rcases Hub.unheard_deed d with ⟨hg, -⟩ | ⟨n, hn, rfl⟩
    · rw [hg]
      exact hm
    · intro n' hn'
      rw [Hub.unheard_land] at hn'
      rcases List.mem_append.1 hn' with hn' | hn'
      · exact hm n' hn'
      · rw [List.mem_singleton.1 hn']
        exact fun ht => hl (hn.trans (congrArg some ht))
  · rcases h.cases_first f.led with ⟨hg, hs⟩ | ⟨n, hg, hs⟩ | ⟨-, hg, hs⟩
    · exact ⟨hg ▸ hu, hs⟩
    · rw [hg] at hu
      have hn : x.hear n = x := by simp [Display.hear, hu n List.mem_cons_self]
      refine ⟨fun n' hn' => hu n' (List.mem_cons_of_mem n hn'), ?_⟩
      rw [hs, hx, Option.map_some, hn]
    · refine ⟨?_, hs⟩
      rw [hg]
      intro n hn
      cases hn
  · rw [h]
    refine ⟨hu, ?_⟩
    have hne : (0 : Nat) ≠ i := by
      rintro rfl
      have hm := (place?_eq_zero_iff f name).1 hi
      simp [Act.controls, hm] at hc
    rw [Hub.shown_alter, if_neg hne]

theorem undisturbed_course {d e : Desk σ X} {as : List (Act X)} (f : d.Fit) (c : Course d as e)
    (hl : ∀ a ∈ as, a.landing? ≠ some analysisTag) (hc : ∀ a ∈ as, a.controls mainName = false)
    (hu : ∀ n ∈ d.hub.unheard 0, n.tag ≠ analysisTag) : e.hub.shown 0 = d.hub.shown 0 := by
  have h := c.keep
    (P := fun m => m.Fit ∧ (∀ n ∈ m.hub.unheard 0, n.tag ≠ analysisTag) ∧
      m.hub.shown 0 = d.hub.shown 0)
    (fun m n a ha s hm => by
      obtain ⟨hn, hs⟩ := s.undisturbed hm.1 (hl a ha) (hc a ha) hm.2.1
      exact ⟨hm.1.move s, hn, hs.trans hm.2.2⟩)
    ⟨f, hu, rfl⟩
  exact h.2.2

/-- The cards of a display carry the ids and names of their models, in the same order. -/
theorem ids_names_cards (x : Display) (ms : List Model) :
    (ms.map x.card).map (fun k => (k.id, k.name)) = ms.map fun m => (m.id, m.name) := by
  rw [List.map_map]
  rfl

/-- On any course of a desk: if no listener has failed, then whenever all is quiet the first display
shows the analysis that the store keeps, with one card for each of its models in their order and
under its id and name, exactly if another file is asked for, and else nothing. And as long as no analysis lands and none is
out for the display, nothing but its own controls changes what it shows, its focus or its gallery.
-/
theorem display_agrees_with_store {w : σ} {d : Desk σ X} {as : List (Act X)}
    (c : Course (start w) as d) :
    ((∀ a ∈ as, a.isFailed = false) → d.hub.store.isIdle = true →
      ∃ x, d.display? mainName = some x ∧ x.analysis = d.hub.store.value analysisTag ∧
        (d.offer = .uploadAnother ↔ ∃ a ks, d.hub.store.value analysisTag = some a ∧
          x.cards = some ks ∧ ks = a.models.map x.card ∧
          ks.map (fun k => (k.id, k.name)) = a.models.map fun m => (m.id, m.name)) ∧
        (d.offer ≠ .uploadAnother → x.cards = none ∧ x.html = "")) ∧
    ((∀ n ∈ d.hub.unheard 0, n.tag ≠ analysisTag) → ∀ bs e, Course d bs e →
      (∀ a ∈ bs, a.landing? ≠ some analysisTag) → (∀ a ∈ bs, a.controls mainName = false) →
      e.display? mainName = d.display? mainName) := by
  have f := fit_course c (fit_start w)
  constructor
  · intro sound quiet
    have hk := (c.keep (P := fun d => d.Fit ∧ d.hub.Coherent)
      (fun m n a ha s hm => by
        refine ⟨hm.1.move s, s.coherent hm.1 ?_ hm.2⟩
        intro ht
        rw [sound a ha] at ht
        cases ht)
      ⟨fit_start w, coherent_start w⟩).2
    obtain ⟨x, hx⟩ := f.led.first
    have hs := hk.analysis_eq quiet hx
    refine ⟨x, (display?_main d).trans hx, hs, ?_, ?_⟩
    · rw [offer_eq_uploadAnother_iff]
      constructor
      · rintro ⟨a, ha⟩
        exact ⟨a, _, ha, by simp [Display.cards, hs, ha], rfl, ids_names_cards x a.models⟩
      · rintro ⟨a, -, ha, -⟩
        exact ⟨a, ha⟩
    · intro ho
      rw [Ne, offer_eq_uploadAnother_iff] at ho
      have hn : x.cards = none := by
        cases ha : d.hub.store.value analysisTag with
        | none => simp [Display.cards, hs, ha]
        | some a => exact absurd ⟨a, ha⟩ ho
      exact ⟨hn, by simp [Display.html, hn]⟩
  · intro hu bs e hb hl hc
    rw [display?_main, display?_main]
    exact undisturbed_course f hb hl hc hu

/-! ## A listener that replaces what lands -/

def firstAnalysis : Analysis := ⟨"one", [⟨"m", "M", {}, [], ""⟩]⟩

def secondAnalysis : Analysis := ⟨"two", [⟨"n", "N", {}, [], ""⟩, ⟨"m", "M", {}, [], ""⟩]⟩

/-- Answers the first analysis with a note under another tag and an analysis of its own. -/
def replacer : Script Analysis :=
  .ofRules [⟨{ value := some firstAnalysis }, 1,
    [.ask (.write "note" (.failure "late")), .ask (.write analysisTag (.success secondAnalysis))]⟩]

def replacing : Desk Unit (Script Analysis) :=
  ((start ()).asked none (.subscribe "a" replacer)).wrote analysisTag (.success firstAnalysis)

def replaced : Desk Unit (Script Analysis) :=
  { replacing with hub := Hub.advance 20 replacing.hub }

def noted : Desk Unit (Script Analysis) := replaced.wrote "note" (.failure "later")

theorem course_replaced : Course (start ())
    ([.beat (.asked none (.subscribe "a" (.other replacer))),
      .write analysisTag (.success firstAnalysis)] ++ (Hub.beats 20 replacing.hub).map .beat)
    replaced :=
  ((Course.of_move (.ask (start ()) none (.subscribe "a" replacer))).move
    (.write _ analysisTag (.success firstAnalysis))).trans (course_advance replacing 20)

theorem course_noted : Course replaced ([.write "note" (.failure "later")] ++
    (Hub.beats 20 noted.hub).map .beat) { noted with hub := Hub.advance 20 noted.hub } :=
  (Course.of_move (.write replaced "note" (.failure "later"))).trans (course_advance noted 20)

/-- The display shows the analysis of the replacer, and a note leaves it there. -/
theorem display_behind_replacer :
    (∃ x, replaced.display? mainName = some x ∧ x.analysis = some secondAnalysis) ∧
    Desk.display? { noted with hub := Hub.advance 20 noted.hub } mainName
      = replaced.display? mainName := by
  have quiet : replaced.hub.store.isIdle = true := by decide
  obtain ⟨agree, safe⟩ := display_agrees_with_store course_replaced
  obtain ⟨x, hx, hs, -⟩ := agree (by decide) quiet
  refine ⟨⟨x, hx, hs.trans (by decide)⟩, ?_⟩
  have none_out : ∀ n ∈ replaced.hub.unheard 0, n.tag ≠ analysisTag := by
    simp [Hub.unheard_of_isIdle quiet]
  exact safe none_out _ _ course_noted (by decide) (by decide)

end Desk
end SchemaBoard
