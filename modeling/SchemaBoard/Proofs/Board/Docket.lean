import SchemaBoard.Proofs.Board.Career

/-!
# The docket of a display

A display keeps no record of the tickets it hands out, and the tickets for one model of one analysis
are equal. To tell the requests apart the docket numbers them in the order in which they are handed
out, and keeps the replies in the order in which they come. The invariant: tickets from before the
last reset are void and the others are not, so what hangs for a model came with the last success
since the model was last refreshed, whichever request of the period it answers. Main statements:
`dated_run`, `Hangs.run`.
-/
namespace SchemaBoard

open Remote (Service)

namespace Display

/-- A display with the tickets it has handed out, the replies that came for them, and the number of
tickets that there were when it was last reset. -/
structure Docket where
  display : Display := {}
  tickets : List Ticket := []
  replies : List (Nat × Except Reply.Failure String) := []
  since : Nat := 0

/-- What a display is dealt. Requests are settled by their number. -/
inductive Deal where
  | hear (n : Notice Analysis)
  | press (id : String) (c : Control)
  | beginCode (id : String)
  | beginRefresh (id : String)
  | settle (number : Nat) (reply : Except Reply.Failure String)

namespace Docket

/-- The docket after a deal. One that fails changes nothing, nor does a reply to a request that was
never handed out. -/
def after (k : Docket) : Deal → Docket
  | .hear n =>
    { k with
      display := k.display.hear n
      since := if n.tag = analysisTag then k.tickets.length else k.since }
  | .press id c => { k with display := k.display.act (.press id c) }
  | .beginCode id =>
    match k.display.beginCode id with
    | .ok (t, d) => { k with display := d, tickets := k.tickets ++ t.toList }
    | .error _ => k
  | .beginRefresh id =>
    match k.display.beginRefresh id with
    | .ok (t, d) => { k with display := d, tickets := k.tickets ++ [t] }
    | .error _ => k
  | .settle j reply =>
    match k.tickets[j]? with
    | some t =>
      { k with display := (k.display.finishCode t reply).2, replies := k.replies ++ [(j, reply)] }
    | none => k

def run (k : Docket) (deals : List Deal) : Docket := deals.foldl after k

@[simp] theorem run_nil (k : Docket) : k.run [] = k := rfl

@[simp] theorem run_append (k : Docket) (as bs : List Deal) :
    k.run (as ++ bs) = (k.run as).run bs := by
  simp [run]

@[simp] theorem run_singleton (k : Docket) (a : Deal) : k.run [a] = k.after a := rfl

variable {k : Docket} {a : Deal} {id : String} {n : Nat}

theorem after_beginCode {t : Option Ticket} {d : Display}
    (h : k.display.beginCode id = .ok (t, d)) :
    k.after (.beginCode id) = { k with display := d, tickets := k.tickets ++ t.toList } := by
  simp [after, h]

theorem after_beginRefresh {t : Ticket} {d : Display}
    (h : k.display.beginRefresh id = .ok (t, d)) :
    k.after (.beginRefresh id) = { k with display := d, tickets := k.tickets ++ [t] } := by
  simp [after, h]

theorem after_settle {j : Nat} {t : Ticket} (h : k.tickets[j]? = some t)
    (reply : Except Reply.Failure String) :
    k.after (.settle j reply) = { k with
      display := (k.display.finishCode t reply).2, replies := k.replies ++ [(j, reply)] } := by
  simp [after, h]

/-! ## What a deal does -/

/-- The forms of a deal: the display is reset; at most the focus moves, and a ticket may be handed
out; a model is refreshed; a request is settled. -/
inductive Change (k : Docket) : Deal → Docket → Prop where
  | reset (n : Notice Analysis) (o : Outcome Analysis) :
      Change k (.hear n) { k with display := k.display.reset o, since := k.tickets.length }
  | ask (a : Deal) {d : Display} {ts : List Ticket} (hd : d.gallery = k.display.gallery)
      (hts : ∀ t ∈ ts, t.generation = k.display.gallery.generation) :
      Change k a { k with display := d, tickets := k.tickets ++ ts }
  | refresh (id : String) {d : Display} {t : Ticket}
      (hd : d.gallery = k.display.gallery.remove id)
      (ht : t.generation = k.display.gallery.generation) :
      Change k (.beginRefresh id) { k with display := d, tickets := k.tickets ++ [t] }
  | settle {j : Nat} {t : Ticket} (hj : k.tickets[j]? = some t)
      (reply : Except Reply.Failure String) :
      Change k (.settle j reply) { k with
        display := (k.display.finishCode t reply).2, replies := k.replies ++ [(j, reply)] }

theorem change_of_quiet (a : Deal) {d : Display} (hd : d.gallery = k.display.gallery) :
    Change k a { k with display := d } := by
  have none : ∀ t ∈ ([] : List Ticket), t.generation = k.display.gallery.generation := by simp
  simpa using Change.ask a hd none

theorem change_after (k : Docket) (a : Deal) : Change k a (k.after a) := by
  cases a with
  | hear n =>
    by_cases hn : n.tag = analysisTag
    · simpa [after, Display.hear, hn] using Change.reset n n.entry.outcome
    · simpa [after, Display.hear, hn] using change_of_quiet (.hear n) rfl
  | press id c =>
    apply change_of_quiet
    cases h : k.display.move id c with
    | error e => simp [act, h]
    | ok e => simp [act, h, move_ok h, Display.press]
  | beginCode id =>
    cases h : k.display.beginCode id with
    | error e => simpa [after, h] using change_of_quiet (.beginCode id) (k := k) rfl
    | ok p =>
      obtain ⟨⟨m, schema⟩, -, rfl⟩ := exists_of_map_ok h
      rw [after_beginCode h]
      refine .ask _ rfl fun t ht => ?_
      split at ht
      · cases ht
      · obtain rfl : t = k.display.gallery.ticket m schema := by simpa using ht
        rfl
  | beginRefresh id =>
    cases h : k.display.beginRefresh id with
    | error e => simpa [after, h] using change_of_quiet (.beginRefresh id) (k := k) rfl
    | ok p =>
      obtain ⟨⟨m, schema⟩, -, rfl⟩ := exists_of_map_ok h
      rw [after_beginRefresh h]
      exact .refresh id rfl rfl
  | settle j reply =>
    cases h : k.tickets[j]? with
    | none => simpa [after, h] using change_of_quiet (.settle j reply) (k := k) rfl
    | some t =>
      rw [after_settle h]
      exact .settle h reply

/-! ## Showing code at once -/

/-- To show code is to begin and, if a request was handed out, to settle just that. -/
theorem run_showCode {σ : Type} {s : Service σ} {e : Display} {w v : σ}
    (h : k.display.showCode s id w = .ok (e, v)) :
    (k.after (.beginCode id)).display = e ∧ (k.after (.beginCode id)).tickets = k.tickets ∨
      ∃ reply, ((k.after (.beginCode id)).after (.settle k.tickets.length reply)).display = e := by
  obtain ⟨⟨t, d⟩, hb, he⟩ := exists_of_map_ok h
  rw [after_beginCode hb]
  cases t with
  | none =>
    have he : d = e := congrArg Prod.fst he
    exact .inl ⟨he, by simp⟩
  | some t =>
    have he : (Display.run s t d w).1 = e := congrArg Prod.fst he
    refine .inr ⟨(s.highlight w t.request).1, ?_⟩
    rw [after_settle (t := t) (by simp), ← he, run_eq]
    rfl

theorem run_refreshCode {σ : Type} {s : Service σ} {e : Display} {w v : σ}
    (h : k.display.refreshCode s id w = .ok (e, v)) :
    ∃ reply,
      ((k.after (.beginRefresh id)).after (.settle k.tickets.length reply)).display = e := by
  obtain ⟨⟨t, d⟩, hb, he⟩ := exists_of_map_ok h
  have he : (Display.run s t d w).1 = e := congrArg Prod.fst he
  refine ⟨(s.highlight w t.request).1, ?_⟩
  rw [after_beginRefresh hb, after_settle (t := t) (by simp), ← he, run_eq]
  rfl

/-! ## Which tickets are void -/

/-- The generation of a ticket tells on which side of the last reset it was handed out. -/
structure Dated (k : Docket) : Prop where
  since_le : k.since ≤ k.tickets.length
  replied : ∀ q ∈ k.replies, q.1 < k.tickets.length
  void : ∀ j t, k.tickets[j]? = some t → j < k.since →
    t.generation < k.display.gallery.generation
  valid : ∀ j t, k.tickets[j]? = some t → k.since ≤ j →
    t.generation = k.display.gallery.generation

theorem dated_empty : Dated {} := ⟨Nat.le_refl _, by simp, by simp, by simp⟩

namespace Dated

theorem generation_le (h : Dated k) {j : Nat} {t : Ticket} (ht : k.tickets[j]? = some t) :
    t.generation ≤ k.display.gallery.generation := by
  by_cases hj : j < k.since
  · exact Nat.le_of_lt (h.void j t ht hj)
  · exact Nat.le_of_eq (h.valid j t ht (Nat.le_of_not_lt hj))

theorem reset (h : Dated k) (o : Outcome Analysis) :
    Dated { k with display := k.display.reset o, since := k.tickets.length } where
  since_le := Nat.le_refl _
  replied := h.replied
  void j t ht _ := Nat.lt_succ_of_le (h.generation_le ht)
  valid j t ht hj := by
    rw [List.getElem?_eq_none hj] at ht
    cases ht

/-- Tickets may be added, and the gallery may change, as long as its generation stays. -/
theorem ask (h : Dated k) {d : Display} {ts : List Ticket}
    (hd : d.gallery.generation = k.display.gallery.generation)
    (hts : ∀ t ∈ ts, t.generation = k.display.gallery.generation) :
    Dated { k with display := d, tickets := k.tickets ++ ts } where
  since_le := Nat.le_trans h.since_le (by simp)
  replied q hq := Nat.lt_of_lt_of_le (h.replied q hq) (by simp)
  void j t ht hj := by
    rw [List.getElem?_append_left (Nat.lt_of_lt_of_le hj h.since_le)] at ht
    rw [hd]
    exact h.void j t ht hj
  valid j t ht hj := by
    rw [hd]
    by_cases hl : j < k.tickets.length
    · rw [List.getElem?_append_left hl] at ht
      exact h.valid j t ht hj
    · rw [List.getElem?_append_right (Nat.le_of_not_lt hl)] at ht
      exact hts t (List.mem_of_getElem? ht)

theorem settle (h : Dated k) {j : Nat} {t : Ticket} (hj : k.tickets[j]? = some t)
    (reply : Except Reply.Failure String) :
    Dated { k with
      display := (k.display.finishCode t reply).2, replies := k.replies ++ [(j, reply)] } := by
  have hg : (k.display.finishCode t reply).2.gallery.generation
      = k.display.gallery.generation := by
    simp only [finishCode, Gallery.settle]
    split
    · cases reply <;> rfl
    · rfl
  refine ⟨h.since_le, fun q hq => ?_, ?_, ?_⟩
  · rcases List.mem_append.1 hq with hq | hq
    · exact h.replied q hq
    · obtain rfl := List.mem_singleton.1 hq
      exact (List.getElem?_eq_some_iff.1 hj).1
  · simp only [hg]
    exact h.void
  · simp only [hg]
    exact h.valid

theorem change {e : Docket} (h : Dated k) (c : Change k a e) : Dated e := by
  cases c with
  | reset n o => exact h.reset o
  | ask _ hd hts => exact h.ask (congrArg _ hd) hts
  | refresh id hd ht => exact h.ask (by rw [hd]; rfl) (by simpa using ht)
  | settle hj reply => exact h.settle hj reply

theorem run (h : Dated k) (deals : List Deal) : Dated (k.run deals) := by
  induction deals generalizing k with
  | nil => exact h
  | cons a deals ih => exact ih (h.change (change_after k a))

end Dated

theorem dated_run (deals : List Deal) : Dated (({} : Docket).run deals) := dated_empty.run deals

/-! ## What hangs -/

/-- A request for a model that was handed out since the last reset. -/
def Asked (k : Docket) (id : String) (j : Nat) : Prop :=
  k.since ≤ j ∧ ∃ t, k.tickets[j]? = some t ∧ t.id = id

/-- The code with which a reply answers such a request. -/
def answer? (k : Docket) (id : String) (q : Nat × Except Reply.Failure String) : Option String :=
  match k.tickets[q.1]?, q.2 with
  | some t, .ok code => if k.since ≤ q.1 ∧ t.id = id then some code else none
  | _, _ => none

/-- The code that came for a model in this period, but for so many replies at the beginning. -/
def answers (k : Docket) (n : Nat) (id : String) : List String :=
  (k.replies.drop n).filterMap (k.answer? id)

theorem answer?_eq_some_iff {q : Nat × Except Reply.Failure String} {code : String} :
    k.answer? id q = some code ↔ k.Asked id q.1 ∧ q.2 = .ok code := by
  obtain ⟨j, reply⟩ := q
  unfold answer? Asked
  cases hj : k.tickets[j]? with
  | none => simp
  | some t =>
    cases reply with
    | error f => simp
    | ok c => simp [and_assoc]

/-- Where only tickets are added, the replies answer what they answered. -/
theorem answers_ask (h : Dated k) (d : Display) (ts : List Ticket) (n : Nat) (id : String) :
    answers { k with display := d, tickets := k.tickets ++ ts } n id = k.answers n id := by
  apply List.filterMap_congr
  intro q hq
  have hlt := h.replied q (List.mem_of_mem_drop hq)
  simp only [answer?, List.getElem?_append_left hlt]

/-- A reply is hung exactly if it answers a request of the period. -/
theorem get?_finishCode (hk : Dated k) {j : Nat} {t : Ticket} (hj : k.tickets[j]? = some t)
    (reply : Except Reply.Failure String) (id : String) :
    (k.display.finishCode t reply).2.gallery.get? id
      = ((k.answer? id (j, reply)).map Html.clean).or (k.display.gallery.get? id) := by
  cases ha : k.answer? id (j, reply) with
  | some code =>
    obtain ⟨⟨hs, u, hu, rfl⟩, hr⟩ := answer?_eq_some_iff.1 ha
    obtain rfl : t = u := Option.some.inj (hj.symm.trans hu)
    simp only at hs hr
    simp [hr, finishCode, Gallery.settle, hk.valid j t hj hs]
  | none =>
    by_cases hs : k.since ≤ j
    · cases reply with
      | error f => simp [finishCode, Gallery.settle]
      | ok code =>
        have hne : id ≠ t.id := by
          intro he
          rw [answer?_eq_some_iff.2 ⟨⟨hs, t, hj, he.symm⟩, rfl⟩] at ha
          cases ha
        simp [finishCode, Gallery.settle, hk.valid j t hj hs, Gallery.get?_hang_of_ne _ _ hne]
    · have hv := hk.void j t hj (Nat.lt_of_not_le hs)
      simp [finishCode, Gallery.settle, Nat.ne_of_lt hv]

/-- What hangs for a model is the last code that came for it, with the first replies left out. -/
structure Hangs (k : Docket) (n : Nat) (id : String) : Prop where
  le : n ≤ k.replies.length
  last : k.display.gallery.get? id = (k.answers n id).getLast?.map Html.clean

theorem hangs_empty (id : String) : Hangs {} 0 id := ⟨Nat.le_refl _, rfl⟩

namespace Hangs

theorem ask (h : Hangs k n id) (hk : Dated k) {d : Display} {ts : List Ticket}
    (hd : d.gallery.get? id = k.display.gallery.get? id) :
    Hangs { k with display := d, tickets := k.tickets ++ ts } n id := by
  refine ⟨h.le, ?_⟩
  rw [answers_ask hk, ← h.last]
  exact hd

/-- After a reset no reply that has come counts any more. -/
theorem reset (h : Hangs k n id) (hk : Dated k) (o : Outcome Analysis) :
    Hangs { k with display := k.display.reset o, since := k.tickets.length } n id := by
  refine ⟨h.le, ?_⟩
  have none_left : answers { k with display := k.display.reset o, since := k.tickets.length } n id
      = [] := by
    rw [answers, List.filterMap_eq_nil_iff]
    intro q hq
    rw [Option.eq_none_iff_forall_ne_some]
    intro code hc
    have hlt := hk.replied q (List.mem_of_mem_drop hq)
    have hle : k.tickets.length ≤ q.1 := (answer?_eq_some_iff.1 hc).1.1
    omega
  rw [none_left]
  rfl

theorem settle (h : Hangs k n id) (hk : Dated k) {j : Nat} {t : Ticket}
    (hj : k.tickets[j]? = some t) (reply : Except Reply.Failure String) :
    Hangs { k with
      display := (k.display.finishCode t reply).2, replies := k.replies ++ [(j, reply)] } n id := by
  refine ⟨Nat.le_trans h.le (by simp), ?_⟩
  have hrow : answers { k with
      display := (k.display.finishCode t reply).2, replies := k.replies ++ [(j, reply)] } n id
      = k.answers n id ++ (k.answer? id (j, reply)).toList := by
    simp only [answers, List.drop_append_of_le_length h.le, List.filterMap_append]
    rfl
  rw [hrow]
  refine (get?_finishCode hk hj reply id).trans ?_
  rw [h.last]
  cases k.answer? id (j, reply) <;> simp

/-- To refresh a model starts its account anew. -/
theorem refresh (hk : Dated k) {d : Display} {t : Ticket}
    (hd : d.gallery = k.display.gallery.remove id) :
    Hangs { k with display := d, tickets := k.tickets ++ [t] } k.replies.length id := by
  refine ⟨Nat.le_refl _, ?_⟩
  rw [answers_ask hk]
  simp [answers, hd]

theorem change {e : Docket} (h : Hangs k n id) (hk : Dated k) (c : Change k a e)
    (ha : a ≠ .beginRefresh id) : Hangs e n id := by
  cases c with
  | reset _ o => exact h.reset hk o
  | ask _ hd hts => exact h.ask hk (by rw [hd])
  | refresh i hd ht =>
    have hi : id ≠ i := fun he => ha (by rw [he])
    exact h.ask hk (by rw [hd, Gallery.get?_remove_of_ne _ hi])
  | settle hj reply => exact h.settle hk hj reply

/-- As long as a model is not refreshed again its account is kept. -/
theorem run (h : Hangs k n id) (hk : Dated k) {deals : List Deal}
    (hr : .beginRefresh id ∉ deals) : Hangs (k.run deals) n id := by
  induction deals generalizing k with
  | nil => exact h
  | cons a deals ih =>
    obtain ⟨ha, hr⟩ := not_or.1 (mt List.mem_cons.2 hr)
    exact ih (h.change hk (change_after k a) (Ne.symm ha)) (hk.change (change_after k a)) hr

end Hangs

end Docket
end Display
end SchemaBoard
