import SchemaBoard.Proofs.Store.Recovery

/-!
# The ledger of a tag

What is done under a tag comes to a ledger: the numbers handed out, one after another from one on,
and the entries accepted, each with the number that it came under. A store keeps the ledger of every
tag as if there were no other, whoever asks, in whatever rounds, and whether listeners fail or not;
what it answers under a tag is read off the ledger. Main statements: `tag_follows_ledger`,
`accepted_iff_last_granted`.
-/
namespace SchemaBoard

variable {L V : Type}

/-- The tag that a request is about. -/
def Request.tag? : Request L V → Option String
  | .issue tag => some tag
  | .write tag _ => some tag
  | .writeAt tag _ _ => some tag
  | .read tag => some tag
  | .value tag => some tag
  | _ => none

/-- A request that issues a number is about the tag for which it does. -/
theorem Request.issued?_eq_some_iff {r : Request L V} {tag : String} :
    r.issued? = some tag ↔ r.tag? = some tag ∧ r.issued?.isSome = true := by
  cases r <;> simp [issued?, tag?]

/-- The requests about a tag among beats. -/
def about (tag : String) (bs : List (Beat L V)) : List (Request L V) :=
  (requests bs).filter (·.tag? = some tag)

@[simp] theorem about_append (tag : String) (bs cs : List (Beat L V)) :
    about tag (bs ++ cs) = about tag bs ++ about tag cs := by
  simp [about]

/-- No more numbers are asked for than there are beats, so it takes 2^64 beats to get to a number
that 64 bits cannot hold. -/
theorem countP_about_le (tag : String) (bs : List (Beat L V)) :
    (about tag bs).countP (·.issued?.isSome) ≤ bs.length :=
  calc (about tag bs).countP (·.issued?.isSome)
      ≤ (about tag bs).length := List.countP_le_length
    _ ≤ (requests bs).length := List.length_filter_le _ _
    _ ≤ bs.length := List.length_filterMap_le _ _

/-- What was done under a single tag: the numbers handed out and the entries accepted, the earliest
first. -/
structure Ledger (V : Type) where
  granted : List Nat := []
  entries : List (Entry V) := []

namespace Ledger

/-- The number that is handed out next. -/
def next (k : Ledger V) : Nat := k.granted.length + 1

/-- The ledger after a request about its tag. -/
def after (k : Ledger V) : Request L V → Ledger V
  | .issue _ => { k with granted := k.granted ++ [k.next] }
  | .write _ o => ⟨k.granted ++ [k.next], k.entries ++ [⟨k.next, o⟩]⟩
  | .writeAt _ n o =>
    if n = k.granted.length then { k with entries := k.entries ++ [⟨n, o⟩] } else k
  | _ => k

/-- The answer to a request about its tag. -/
def answer (k : Ledger V) : Request L V → Answer V
  | .issue _ => .number k.next
  | .writeAt _ n _ => .flag (n = k.granted.length)
  | .read _ => .entry k.entries.getLast?
  | .value _ => .value (k.entries.getLast?.bind (·.outcome.value?))
  | _ => .done

def run (k : Ledger V) (rs : List (Request L V)) : Ledger V := rs.foldl after k

@[simp] theorem run_nil (k : Ledger V) : k.run ([] : List (Request L V)) = k := rfl

@[simp] theorem run_append (k : Ledger V) (rs qs : List (Request L V)) :
    k.run (rs ++ qs) = (k.run rs).run qs := by
  simp [run]

@[simp] theorem run_singleton (k : Ledger V) (r : Request L V) : k.run [r] = k.after r := rfl

theorem run_about_asked (k : Ledger V) (tag : String) (asker : Option Nat) (r : Request L V) :
    k.run (about tag [.asked asker r]) = if r.tag? = some tag then k.after r else k := by
  by_cases hr : r.tag? = some tag <;> simp [about, hr]

/-- The numbers of a ledger count up from one, and its entries come under numbers that are out and
never go back. -/
structure InOrder (k : Ledger V) : Prop where
  granted : k.granted = List.range' 1 k.granted.length
  sorted : k.entries.Pairwise (·.sequence ≤ ·.sequence)
  bound : ∀ e ∈ k.entries, e.sequence ≤ k.granted.length

theorem inOrder_empty : InOrder ({} : Ledger V) := ⟨rfl, .nil, by simp⟩

namespace InOrder

variable {k : Ledger V}

theorem grant (o : InOrder k) : InOrder { k with granted := k.granted ++ [k.next] } where
  granted := by
    rw [List.length_append, List.length_singleton, List.range'_concat, ← o.granted]
    simp [next, Nat.add_comm]
  sorted := o.sorted
  bound e he := by
    have := o.bound e he
    rw [List.length_append]
    omega

/-- An entry that comes under the last number goes to the end. -/
theorem accept (o : InOrder k) (v : Outcome V) :
    InOrder { k with entries := k.entries ++ [⟨k.granted.length, v⟩] } where
  granted := o.granted
  sorted := by
    rw [List.pairwise_append]
    refine ⟨o.sorted, List.pairwise_singleton _ _, ?_⟩
    intro a ha b hb
    rw [List.mem_singleton.1 hb]
    exact o.bound a ha
  bound e he := by
    rcases List.mem_append.1 he with he | he
    · exact o.bound e he
    · obtain rfl := List.mem_singleton.1 he
      exact Nat.le_refl _

theorem after (o : InOrder k) (r : Request L V) : InOrder (k.after r) := by
  cases r with
  | issue tag => exact o.grant
  | write tag v =>
    have h := o.grant.accept v
    simpa [Ledger.after, next] using h
  | writeAt tag n v =>
    simp only [Ledger.after]
    split
    · rename_i hn
      rw [hn]
      exact o.accept v
    · exact o
  | _ => exact o

theorem run (o : InOrder k) (rs : List (Request L V)) : InOrder (k.run rs) := by
  induction rs generalizing k with
  | nil => exact o
  | cons r rs ih => exact ih (o.after r)

end InOrder

theorem length_granted_after (k : Ledger V) (r : Request L V) :
    (k.after r).granted.length = k.granted.length + if r.issued?.isSome then 1 else 0 := by
  cases r with
  | writeAt tag n v =>
    simp only [after]
    split <;> rfl
  | _ => simp [after, Request.issued?]

/-- As many numbers are out as were asked for. -/
theorem length_granted_run (k : Ledger V) (rs : List (Request L V)) :
    (k.run rs).granted.length = k.granted.length + rs.countP (·.issued?.isSome) := by
  induction rs generalizing k with
  | nil => rfl
  | cons r rs ih =>
    have hrun : k.run (r :: rs) = (k.after r).run rs := rfl
    rw [hrun, ih, length_granted_after, List.countP_cons]
    omega

end Ledger

/-- The numbers handed out for a tag, according to a log. A plain write is noted right behind its
entry, which tells the number. -/
def grantedIn (tag : String) : List (Event L V) → List Nat
  | [] => []
  | .asked _ (.issue t) (.number n) :: log =>
    grantedIn tag log ++ if t = tag then [n] else []
  | .asked _ (.write _ _) .done :: .stored n :: log =>
    grantedIn tag log ++ if n.tag = tag then [n.entry.sequence] else []
  | _ :: log => grantedIn tag log

namespace Hub

variable {h g m : Hub L V} {tag : String} {k : Ledger V}

def granted (h : Hub L V) (tag : String) : List Nat := grantedIn tag h.log

/-- The entries that have landed under a tag, the earliest first. -/
def entriesUnder (h : Hub L V) (tag : String) : List (Entry V) :=
  (h.landed.filter (·.tag = tag)).map (·.entry)

/-- What a hub has noted of a tag. -/
def ledger (h : Hub L V) (tag : String) : Ledger V := ⟨h.granted tag, h.entriesUnder tag⟩

theorem ledger_of_log (hl : g.log = h.log) (tag : String) : g.ledger tag = h.ledger tag := by
  simp [ledger, granted, entriesUnder, landed, hl]

/-- The ledger of a tag is in the log, and its counter in the store. -/
structure Tallies (h : Hub L V) (tag : String) (k : Ledger V) : Prop where
  ledger : h.ledger tag = k
  latest : h.store.latest tag = k.granted.length

theorem entriesUnder_land (h : Hub L V) (n : Notice V) (tag : String) :
    (h.land n).entriesUnder tag
      = h.entriesUnder tag ++ if n.tag = tag then [n.entry] else [] := by
  by_cases ht : n.tag = tag <;> simp [entriesUnder, List.filter_append, ht]

theorem ledger_land (h : Hub L V) (n : Notice V) (tag : String) :
    (h.land n).ledger tag
      = ⟨h.granted tag, h.entriesUnder tag ++ if n.tag = tag then [n.entry] else []⟩ := by
  rw [← entriesUnder_land]
  rfl

/-- Only requests that issue a number are read off the log. -/
theorem ledger_note {r : Request L V} (hr : r.issued? = none) (asker : Option Nat) (a : Answer V)
    (tag : String) : (h.note (.asked asker r a)).ledger tag = h.ledger tag := by
  cases r with
  | issue s => cases hr
  | write s o => cases hr
  | _ => rfl

theorem log_vacate (h : Hub L V) (slot : String) : (h.vacate slot).1.log = h.log := by
  obtain ⟨s, q, e⟩ := vacate_eq h slot
  rw [e]

/-- A request about no tag leaves the log to itself. -/
theorem log_serve {r : Request L V} (hr : r.tag? = none) : (h.serve r).1.log = h.log := by
  cases r with
  | subscribe slot l => exact log_vacate (h.subscribe slot l) slot
  | unsubscribe slot => exact log_vacate h slot
  | discard slot => exact log_vacate h slot
  | issue s => cases hr
  | write s o => cases hr
  | writeAt s n o => cases hr
  | read s => cases hr
  | value s => cases hr
  | _ => rfl

theorem ledger_issue (h : Hub L V) (s tag : String) (asker : Option Nat) (n : Nat) :
    ((h.issue s).note (.asked asker (.issue s) (.number n))).ledger tag
      = { h.ledger tag with granted := h.granted tag ++ if s = tag then [n] else [] } := rfl

theorem ledger_write (h : Hub L V) (s tag : String) (asker : Option Nat) (o : Outcome V) :
    ((h.write s o).note (.asked asker (.write s o) .done)).ledger tag
      = ⟨h.granted tag ++ if s = tag then [h.store.latest s + 1] else [],
        h.entriesUnder tag ++ if s = tag then [⟨h.store.latest s + 1, o⟩] else []⟩ := by
  rw [← entriesUnder_land h ⟨s, h.store.latest s + 1, o⟩]
  rfl

theorem Tallies.ledger_perform (t : Tallies h tag k) (ho : h.isOpen = true) (asker : Option Nat)
    (r : Request L V) :
    (h.perform asker r).1.ledger tag = if r.tag? = some tag then k.after r else k := by
  obtain ⟨rfl, ht⟩ := t
  have hg : (h.granted tag).length = h.store.latest tag := ht.symm
  rw [perform_of_heard fun _ => ho]
  cases r with
  | issue s =>
    simp only [serve, ledger_issue]
    by_cases hs : s = tag
    · subst hs
      simp [Request.tag?, Ledger.after, Ledger.next, Hub.ledger, hg, Hub.issue]
    · simp [Request.tag?, hs, Hub.ledger]
  | write s o =>
    simp only [serve, ledger_write]
    by_cases hs : s = tag
    · subst hs
      simp [Request.tag?, Ledger.after, Ledger.next, Hub.ledger, hg]
    · simp [Request.tag?, hs, Hub.ledger]
  | writeAt s n o =>
    rw [ledger_note rfl]
    simp only [serve, writeAt?]
    by_cases hn : n = h.store.latest s
    · rw [if_pos hn, ledger_land]
      by_cases hs : s = tag
      · subst hs
        simp [Request.tag?, Ledger.after, Hub.ledger, hg, hn]
      · simp [Request.tag?, hs, Hub.ledger]
    · rw [if_neg hn]
      by_cases hs : s = tag
      · subst hs
        simp [Request.tag?, Ledger.after, Hub.ledger, hg, hn]
      · simp [Request.tag?, hs]
  | read s =>
    rw [ledger_note rfl]
    simp [serve, Ledger.after]
  | value s =>
    rw [ledger_note rfl]
    simp [serve, Ledger.after]
  | _ =>
    rw [ledger_note rfl, ledger_of_log (log_serve rfl)]
    rfl

theorem Tallies.perform (t : Tallies h tag k) (ho : h.isOpen = true) (asker : Option Nat)
    (r : Request L V) :
    Tallies (h.perform asker r).1 tag (if r.tag? = some tag then k.after r else k) where
  ledger := t.ledger_perform ho asker r
  latest := by
    rw [latest_perform ho, t.latest]
    by_cases hr : r.tag? = some tag
    · rw [if_pos hr, Ledger.length_granted_after]
      simp [Request.issued?_eq_some_iff, hr]
    · simp [Request.issued?_eq_some_iff, hr]

/-- Requests about a tag are answered from its ledger. -/
theorem Tallies.answer_perform (t : Tallies h tag k)
    (read : h.store.read tag = k.entries.getLast?) (ho : h.isOpen = true) (asker : Option Nat)
    {r : Request L V} (hr : r.tag? = some tag) : (h.perform asker r).2 = k.answer r := by
  have ht := t.latest
  rw [perform_of_heard fun _ => ho]
  cases r with
  | issue s =>
    obtain rfl := Option.some.inj hr
    simp [serve, Ledger.answer, Ledger.next, Hub.issue, ht]
  | write s o => rfl
  | writeAt s n o =>
    obtain rfl := Option.some.inj hr
    simp only [serve, writeAt?, Ledger.answer, ht]
    by_cases hn : n = k.granted.length <;> simp [hn]
  | read s =>
    obtain rfl := Option.some.inj hr
    simp [serve, Ledger.answer, read]
  | value s =>
    obtain rfl := Option.some.inj hr
    simp [serve, Ledger.answer, Store.value, read]
  | _ => cases hr

/-- A number that is not the last one leaves nothing behind but the note that it was refused. -/
theorem perform_writeAt_of_ne {n : Nat} (ho : h.isOpen = true) (hn : n ≠ h.store.latest tag)
    (asker : Option Nat) (o : Outcome V) :
    h.perform asker (.writeAt tag n o)
      = (h.note (.asked asker (.writeAt tag n o) (.flag false)), .flag false) := by
  rw [perform_of_heard fun _ => ho]
  simp [serve, writeAt?, hn]

variable [Listener L V]

theorem Tallies.step {b : Beat L V} (t : Tallies h tag k) (s : Step h b g) : Tallies g tag k where
  ledger := by
    have hl : g.ledger tag = h.ledger tag := by
      cases s <;> rfl
    exact hl.trans t.ledger
  latest := (latest_eq_of_issued (issued_step s) tag).trans t.latest

/-- Whoever asks, the ledger goes on with the requests about its tag. -/
theorem tallies_course {bs : List (Beat L V)} (c : Course h bs g) (ho : g.isOpen = true)
    (t : Tallies h tag k) : Tallies g tag (k.run (about tag bs)) := by
  induction c with
  | rest => exact t
  | @ask m bs c asker r ih =>
    have hm : m.isOpen = true := isOpen_of_perform asker (h := { m with fault := none }) ho
    have tm : Tallies { m with fault := none } tag _ := ⟨(ih hm).ledger, (ih hm).latest⟩
    rw [about_append, Ledger.run_append, Ledger.run_about_asked]
    exact tm.perform hm asker r
  | @step m g bs c e ih =>
    rw [about_append, Ledger.run_append]
    rcases step?_cases e with s | ⟨i, l, r, -, hb, rfl⟩
    · have other : about tag [m.beat] = [] := by simp [about, requests_step s]
      rw [other, Ledger.run_nil]
      exact (ih ((isOpen_step s).symm.trans ho)).step s
    · have hm : m.isOpen = true := isOpen_of_perform (some i) ho
      have t := (ih hm).perform hm (some i) r
      rw [hb, Ledger.run_about_asked]
      exact ⟨t.ledger, t.latest⟩

/-- How a hub stands under a tag after the requests `rs` about that tag. -/
structure Follows (tag : String) (rs : List (Request L V)) (h : Hub L V) : Prop where
  /-- The numbers handed out and the entries accepted are those of the ledger. -/
  ledger : h.ledger tag = Ledger.run {} rs
  /-- The numbers count up from one, one for each request that asked for one. -/
  granted : h.granted tag = List.range' 1 (rs.countP (·.issued?.isSome))
  latest : h.store.latest tag = rs.countP (·.issued?.isSome)
  /-- What is kept is what was accepted last, under a number that is out; numbers never go back. -/
  read : h.store.read tag = (Ledger.run {} rs).entries.getLast?
  bound : ∀ e ∈ (Ledger.run {} rs).entries, e.sequence ≤ rs.countP (·.issued?.isSome)
  sorted : (Ledger.run {} rs).entries.Pairwise (·.sequence ≤ ·.sequence)
  /-- What is asked about the tag next is answered from the ledger. -/
  answer : ∀ asker r, r.tag? = some tag → (h.perform asker r).2 = (Ledger.run {} rs).answer r
  /-- A write under a number is accepted exactly if the number is how many are out. Else it leaves
  nothing behind but the note that it was refused. -/
  accepted : ∀ asker n o,
    (h.perform asker (.writeAt tag n o)).2 = .flag true ↔ n = rs.countP (·.issued?.isSome)
  refused : ∀ asker n o, n ≠ rs.countP (·.issued?.isSome) →
    h.perform asker (.writeAt tag n o)
      = (h.note (.asked asker (.writeAt tag n o) (.flag false)), .flag false)

theorem follows_course {p : Bool} {bs : List (Beat L V)} (c : Course { isPinned := p } bs h)
    (ho : h.isOpen = true) (tag : String) : Follows tag (about tag bs) h := by
  have start : Tallies ({ isPinned := p } : Hub L V) tag {} := ⟨rfl, rfl⟩
  have tallies := tallies_course c ho start
  have order : Ledger.InOrder (Ledger.run {} (about tag bs)) := Ledger.inOrder_empty.run _
  have count : (Ledger.run {} (about tag bs)).granted.length
      = (about tag bs).countP (·.issued?.isSome) := by
    simpa using Ledger.length_granted_run {} (about tag bs)
  have latest : h.store.latest tag = _ := tallies.latest.trans count
  have read : h.store.read tag = (Ledger.run {} (about tag bs)).entries.getLast? := by
    rw [(ordered_course c (ordered_empty p)).read tag, ← tallies.ledger]
    simp [Hub.ledger, entriesUnder, lastUnder, List.getLast?_map]
  refine ⟨tallies.ledger, ?_, latest, read, ?_, order.sorted, ?_, ?_, ?_⟩
  · have granted : h.granted tag = (Ledger.run {} (about tag bs)).granted :=
      congrArg Ledger.granted tallies.ledger
    rw [granted, order.granted, count]
  · intro e he
    rw [← count]
    exact order.bound e he
  · intro asker r hr
    exact tallies.answer_perform read ho asker hr
  · intro asker n o
    rw [tallies.answer_perform read ho asker rfl]
    simp [Ledger.answer, count]
  · intro asker n o hn
    exact perform_writeAt_of_ne ho (latest ▸ hn) asker o

/-- On any course, as long as the store can be asked, it stands under a tag as the requests about
that tag make it stand, whoever asks and whoever fails. So two courses with the same requests about
a tag cannot be told apart under it, whatever else is asked on them. -/
theorem tag_follows_ledger {p : Bool} {bs : List (Beat L V)} (c : Course { isPinned := p } bs h)
    (ho : h.isOpen = true) (tag : String) :
    Follows tag (about tag bs) h ∧ h.store.latest tag ≤ bs.length ∧
    ∀ {q : Bool} {cs : List (Beat L V)} {e : Hub L V}, Course { isPinned := q } cs e →
      e.isOpen = true → about tag cs = about tag bs →
      e.ledger tag = h.ledger tag ∧ e.store.read tag = h.store.read tag ∧
      ∀ asker r, r.tag? = some tag → (e.perform asker r).2 = (h.perform asker r).2 := by
  have follows := follows_course c ho tag
  refine ⟨follows, ?_, ?_⟩
  · rw [follows.latest]
    exact countP_about_le tag bs
  · intro q cs e d he same
    have other := follows_course d he tag
    rw [same] at other
    refine ⟨other.ledger.trans follows.ledger.symm, other.read.trans follows.read.symm, ?_⟩
    intro asker r hr
    rw [other.answer asker r hr, follows.answer asker r hr]

theorem course_abandoned : Course {} (([.asked none (.subscribe "a" quitter),
    .asked none (.subscribe "b" (.ofRules [])), .asked none (.write "t" (.success 1))]
      ++ beats 3 (writing house 1)) ++ [failing.beat]) abandoned :=
  course_failing.step rfl

/-- Three writes, one of them by a listener that fails then. -/
theorem three_numbers_in_spite_of_failure :
    resumed.granted "t" = [1, 2, 3] ∧ resumed.store.read "t" = some ⟨3, .success 3⟩ ∧
    (resumed.perform none (.writeAt "t" 3 (.success 4))).2 = .flag true ∧
    (resumed.perform none (.writeAt "t" 2 (.success 4))).1.store = resumed.store := by
  obtain ⟨follows, -⟩ :=
    tag_follows_ledger (p := false) (course_abandoned.trans course_resumed) rfl "t"
  refine ⟨follows.granted, follows.read, (follows.accepted none 3 _).2 rfl, ?_⟩
  rw [follows.refused none 2 _ (by decide)]
  rfl

/-- A write under a number is accepted exactly if the number was handed out for the tag and is the
last that was, or if it is zero and none was handed out. Zero itself is never handed out. -/
theorem accepted_iff_last_granted {p : Bool} {bs : List (Beat L V)}
    (c : Course { isPinned := p } bs h) (ho : h.isOpen = true) (tag : String)
    (asker : Option Nat) (n : Nat) (o : Outcome V) :
    ((h.perform asker (.writeAt tag n o)).2 = .flag true ↔
      (h.granted tag).getLast? = some n ∨ n = 0 ∧ h.granted tag = []) ∧ 0 ∉ h.granted tag := by
  have follows := follows_course c ho tag
  rw [follows.accepted, follows.granted]
  refine ⟨?_, ?_⟩
  · cases (about tag bs).countP (·.issued?.isSome) with
    | zero => simp
    | succ m =>
      have last : (List.range' 1 (m + 1)).getLast? = some (m + 1) := by
        rw [List.range'_concat, List.getLast?_append]
        simp [Nat.add_comm]
      have hne : List.range' 1 (m + 1) ≠ [] := by simp
      rw [last]
      simp only [Option.some.injEq, hne, and_false, or_false]
      exact eq_comm
  · rw [List.mem_range'_1]
    omega

/-- Zero is accepted for a tag that no number was handed out for. -/
theorem zero_accepted_before_first_number :
    ({} : Hub (Script Nat) Nat).granted "t" = [] ∧
    (({} : Hub (Script Nat) Nat).perform none (.writeAt "t" 0 (.success 1))).2 = .flag true := by
  have accepted := (accepted_iff_last_granted (p := false) (.rest ({} : Hub (Script Nat) Nat)) rfl
    "t" none 0 (.success 1)).1
  exact ⟨rfl, accepted.2 (.inr ⟨rfl, rfl⟩)⟩

end Hub
end SchemaBoard
