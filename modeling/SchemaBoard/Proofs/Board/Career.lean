import Mathlib.Data.List.DropRight
import SchemaBoard.Proofs.Board.Act

/-!
# Careers of a display

What a display goes through, in notes: the notices it hears, the tickets it issues, and the replies
with which tickets are settled. In a career every ticket that is settled was issued before, and it
may be settled as often as its holder likes. A notice under the tag of analyses parts the past from
what is current. Main statement: `Career.faithful`, by which whatever hangs came for a current
ticket, and a current ticket asks for code of the analysis on show.
-/
namespace SchemaBoard

open Remote (Service)

theorem Analysis.model?_id {a : Analysis} {id : String} {m : Model} (h : a.model? id = some m) :
    m.id = id := by
  have hm := List.find?_some h
  simpa using hm

namespace Display

theorem find_ok {d : Display} {id : String} {m : Model} {schema : String}
    (h : d.find id = .ok (m, schema)) :
    ∃ a, d.analysis = some a ∧ a.model? id = some m ∧ a.schema = schema := by
  unfold find at h
  cases ha : d.analysis with
  | none =>
    rw [ha] at h
    cases h
  | some a =>
    rw [ha] at h
    cases hm : a.model? id with
    | none =>
      simp only [hm] at h
      cases h
    | some k =>
      simp only [hm] at h
      cases h
      exact ⟨a, rfl, hm, rfl⟩

/-- What is worth a note. -/
inductive Note where
  | heard (n : Notice Analysis)
  | issued (t : Ticket)
  | settled (t : Ticket) (reply : Except Reply.Failure String)

/-- Whether a display is reset by what the note tells. -/
def Note.isReset : Note → Bool
  | .heard n => n.tag = analysisTag
  | _ => false

/-- What has been noted since the display was last reset. -/
def current (ns : List Note) : List Note := ns.rtakeWhile fun n => !n.isReset

/-- What was noted up to the last reset. -/
def past (ns : List Note) : List Note := ns.rdropWhile fun n => !n.isReset

theorem past_append_current (ns : List Note) : past ns ++ current ns = ns :=
  List.rdropWhile_append_rtakeWhile

theorem current_append_reset (ns : List Note) {n : Note} (h : n.isReset = true) :
    current (ns ++ [n]) = [] :=
  List.rtakeWhile_concat_neg _ _ _ (by simp [h])

theorem past_append_reset (ns : List Note) {n : Note} (h : n.isReset = true) :
    past (ns ++ [n]) = ns ++ [n] :=
  List.rdropWhile_concat_neg _ _ _ (by simp [h])

theorem current_append_of_not_reset (ns : List Note) {n : Note} (h : n.isReset = false) :
    current (ns ++ [n]) = current ns ++ [n] :=
  List.rtakeWhile_concat_pos _ _ _ (by simp [h])

theorem past_append_of_not_reset (ns : List Note) {n : Note} (h : n.isReset = false) :
    past (ns ++ [n]) = past ns :=
  List.rdropWhile_concat_pos _ _ _ (by simp [h])

/-- What an act gives to note. -/
def notes (d : Display) : Act → List Note
  | .press _ _ => []
  | .beginCode id =>
    match d.beginCode id with
    | .ok (some t, _) => [.issued t]
    | _ => []
  | .beginRefresh id =>
    match d.beginRefresh id with
    | .ok (t, _) => [.issued t]
    | .error _ => []
  | .finishCode t reply => [.settled t reply]

/-- Only to settle a ticket is noted as such. -/
theorem eq_finishCode_of_settled {d : Display} {a : Act} {t : Ticket}
    {reply : Except Reply.Failure String} (h : .settled t reply ∈ d.notes a) :
    a = .finishCode t reply := by
  cases a with
  | press id c => cases h
  | beginCode id =>
    simp only [notes] at h
    split at h
    · cases List.mem_singleton.1 h
    · cases h
  | beginRefresh id =>
    simp only [notes] at h
    split at h
    · cases List.mem_singleton.1 h
    · cases h
  | finishCode u q =>
    obtain ⟨rfl, rfl⟩ := Note.settled.inj (List.mem_singleton.1 h)
    rfl

/-- The careers of a display: from the moment it is put up it hears whatever comes, and its owner
does with it what he likes, but settles no ticket that it has not issued. -/
inductive Career : List Note → Display → Prop where
  | fresh : Career [] {}
  | hear {ns : List Note} {d : Display} (c : Career ns d) (n : Notice Analysis) :
      Career (ns ++ [.heard n]) (d.hear n)
  | act {ns : List Note} {d : Display} (c : Career ns d) (a : Act)
      (own : ∀ t reply, a = .finishCode t reply → .issued t ∈ ns) :
      Career (ns ++ d.notes a) (d.act a)

/-- A ticket asks for the code of the first model of its id on show. -/
def Asks (d : Display) (t : Ticket) : Prop :=
  ∃ a m, d.analysis = some a ∧ a.model? t.id = some m ∧ t.request = ⟨m.span, a.schema⟩

/-- A display that is true to its notes: tickets of the past are void, the others ask for what is on
show, and all that hangs came for one of these. -/
structure Faithful (ns : List Note) (d : Display) : Prop where
  void : ∀ t, .issued t ∈ past ns → t.generation < d.gallery.generation
  valid : ∀ t, .issued t ∈ current ns → t.generation = d.gallery.generation ∧ d.Asks t
  hung : ∀ id html, d.gallery.get? id = some html → ∃ t code, .issued t ∈ current ns ∧
    .settled t (.ok code) ∈ current ns ∧ t.id = id ∧ html = Html.clean code

namespace Faithful

variable {ns : List Note} {d e : Display}

theorem generation_le (f : Faithful ns d) {t : Ticket} (h : .issued t ∈ ns) :
    t.generation ≤ d.gallery.generation := by
  rw [← past_append_current ns] at h
  rcases List.mem_append.1 h with h | h
  · exact Nat.le_of_lt (f.void t h)
  · exact Nat.le_of_eq (f.valid t h).1

/-- A ticket is current exactly if it is of the generation that hangs. -/
theorem mem_current (f : Faithful ns d) {t : Ticket} (h : .issued t ∈ ns)
    (hg : t.generation = d.gallery.generation) : .issued t ∈ current ns := by
  rw [← past_append_current ns] at h
  rcases List.mem_append.1 h with h | h
  · exact absurd hg (Nat.ne_of_lt (f.void t h))
  · exact h

/-- A display that shows and hangs the same is as true, but for what is taken down. -/
theorem congr (f : Faithful ns d) (ha : e.analysis = d.analysis)
    (hg : e.gallery.generation = d.gallery.generation)
    (hs : ∀ id html, e.gallery.get? id = some html → d.gallery.get? id = some html) :
    Faithful ns e := by
  refine ⟨fun t h => ?_, fun t h => ?_, fun id html h => f.hung id html (hs id html h)⟩
  · rw [hg]
    exact f.void t h
  · obtain ⟨hv, a, m, hd, hm, hr⟩ := f.valid t h
    exact ⟨hv.trans hg.symm, a, m, ha.trans hd, hm, hr⟩

/-- One more note that neither resets the display nor is a ticket. -/
theorem note (f : Faithful ns d) {n : Note} (hn : n.isReset = false)
    (hi : ∀ t, n = .issued t → t.generation = d.gallery.generation ∧ d.Asks t) :
    Faithful (ns ++ [n]) d := by
  have hc := current_append_of_not_reset ns hn
  refine ⟨fun t h => ?_, fun t h => ?_, fun id html h => ?_⟩
  · rw [past_append_of_not_reset ns hn] at h
    exact f.void t h
  · rw [hc] at h
    rcases List.mem_append.1 h with h | h
    · exact f.valid t h
    · exact hi t (List.mem_singleton.1 h).symm
  · obtain ⟨t, code, ht, hs, hk, he⟩ := f.hung id html h
    rw [hc]
    exact ⟨t, code, List.mem_append_left _ ht, List.mem_append_left _ hs, hk, he⟩

theorem reset (f : Faithful ns d) {n : Notice Analysis} (hn : n.tag = analysisTag) :
    Faithful (ns ++ [.heard n]) (d.reset n.entry.outcome) := by
  have hr : (Note.heard n).isReset = true := by simp [Note.isReset, hn]
  refine ⟨fun t h => ?_, fun t h => ?_, fun id html h => ?_⟩
  · rw [past_append_reset ns hr] at h
    have hns : .issued t ∈ ns := by simpa using h
    exact Nat.lt_succ_of_le (f.generation_le hns)
  · rw [current_append_reset ns hr] at h
    cases h
  · cases h

theorem hear (f : Faithful ns d) (n : Notice Analysis) :
    Faithful (ns ++ [.heard n]) (d.hear n) := by
  unfold Display.hear
  split
  · exact f.reset ‹_›
  · exact f.note (by simpa [Note.isReset]) (fun t h => by cases h)

theorem press (f : Faithful ns d) (id : String) (c : Control) : Faithful ns (d.press id c) :=
  f.congr rfl rfl fun _ _ h => h

theorem asks_ticket {id : String} {m : Model} {schema : String}
    (h : d.find id = .ok (m, schema)) : d.Asks (d.gallery.ticket m schema) := by
  obtain ⟨a, ha, hm, rfl⟩ := find_ok h
  obtain rfl := Analysis.model?_id hm
  exact ⟨a, m, ha, hm, rfl⟩

theorem issue (f : Faithful ns d) {id : String} {m : Model} {schema : String}
    (h : d.find id = .ok (m, schema)) :
    Faithful (ns ++ [.issued (d.gallery.ticket m schema)]) d :=
  f.note rfl fun t ht => by
    obtain rfl := Note.issued.inj ht
    exact ⟨rfl, asks_ticket h⟩

theorem remove (f : Faithful ns d) (id : String) :
    Faithful ns { d with gallery := d.gallery.remove id } := by
  refine f.congr rfl rfl fun k html h => ?_
  by_cases hk : k = id
  · subst hk
    rw [Gallery.get?_remove_self] at h
    cases h
  · rwa [Gallery.get?_remove_of_ne _ hk] at h

/-- Hang what came for a ticket that was issued. -/
theorem settle (f : Faithful ns d) {t : Ticket} (ht : .issued t ∈ ns)
    (reply : Except Reply.Failure String) :
    Faithful (ns ++ [.settled t reply]) (d.finishCode t reply).2 := by
  have quiet : Faithful (ns ++ [.settled t reply]) d := f.note rfl fun u hu => by cases hu
  have hc := current_append_of_not_reset ns (n := .settled t reply) rfl
  by_cases hg : t.generation = d.gallery.generation
  · cases reply with
    | error e => simpa [finishCode, Gallery.settle, hg] using quiet
    | ok code =>
      have he : (d.finishCode t (.ok code)).2
          = { d with gallery := d.gallery.hang t.id (Html.clean code) } := by
        simp [finishCode, Gallery.settle, hg]
      rw [he]
      refine ⟨quiet.void, quiet.valid, fun id html h => ?_⟩
      by_cases hk : id = t.id
      · subst hk
        obtain rfl : Html.clean code = html := by simpa using h
        rw [hc]
        exact ⟨t, code, List.mem_append_left _ (f.mem_current ht hg), by simp, rfl, rfl⟩
      · exact quiet.hung id html (by rwa [Gallery.get?_hang_of_ne _ _ hk] at h)
  · simpa [finishCode, Gallery.settle, hg] using quiet

theorem act (f : Faithful ns d) (a : Act)
    (own : ∀ t reply, a = .finishCode t reply → .issued t ∈ ns) :
    Faithful (ns ++ d.notes a) (d.act a) := by
  cases a with
  | press id c =>
    cases h : d.move id c with
    | error e => simpa [notes, Display.act, h] using f
    | ok e => simpa [notes, Display.act, h, move_ok h] using f.press id c
  | beginCode id =>
    cases h : d.beginCode id with
    | error e => simpa [notes, Display.act, h] using f
    | ok p =>
      obtain ⟨⟨m, schema⟩, hf, rfl⟩ := exists_of_map_ok h
      by_cases hk : d.gallery.contains id = true
      · simpa [notes, Display.act, h, hk] using f.press id .code
      · simpa [notes, Display.act, h, hk] using (f.issue hf).press id .code
  | beginRefresh id =>
    cases h : d.beginRefresh id with
    | error e => simpa [notes, Display.act, h] using f
    | ok p =>
      obtain ⟨⟨m, schema⟩, hf, rfl⟩ := exists_of_map_ok h
      have hr : Faithful (ns ++ [.issued (d.gallery.ticket m schema)])
          { d.press id .code with gallery := d.gallery.remove id } :=
        ((f.issue hf).remove id).press id .code
      simpa [notes, Display.act, h] using hr
  | finishCode t reply => exact f.settle (own t reply rfl) reply

end Faithful

theorem Career.faithful {ns : List Note} {d : Display} (c : Career ns d) : Faithful ns d := by
  induction c with
  | fresh =>
    refine ⟨fun t h => ?_, fun t h => ?_, fun id html h => ?_⟩
    · cases h
    · cases h
    · cases h
  | hear c n ih => exact ih.hear n
  | act c a own ih => exact ih.act a own

end Display
end SchemaBoard
