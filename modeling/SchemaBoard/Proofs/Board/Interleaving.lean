import Mathlib.Data.List.Nodup
import Mathlib.Data.List.Perm.Basic
import SchemaBoard.Proofs.Board.Act
import SchemaBoard.Proofs.Board.Completion

/-!
# The order in which code comes

Tickets for different models may be settled in any order, and anywhere between presses of controls.
The presses move the focus and the completions change the gallery, and neither looks at what the
other changes: so the presses can all be made first. What hangs for a model is left to its own
completion, so behind the presses the completions may change places. Main statements:
`acts_interleaves`, `interleavings_agree`.
-/
namespace SchemaBoard

namespace Gallery

/-- The gallery after completions, one after another. -/
def settleAll (g : Gallery) (qs : List Completion) : Gallery :=
  qs.foldl (fun g q => (g.settle q.ticket q.reply).2) g

variable (g : Gallery) {qs rs : List Completion}

@[simp] theorem generation_settleAll (qs : List Completion) :
    (g.settleAll qs).generation = g.generation := by
  induction qs generalizing g with
  | nil => rfl
  | cons q qs ih => exact (ih _).trans (g.generation_settle q)

theorem get?_settleAll (qs : List Completion) :
    (g.settleAll qs).get? = qs.foldl (Completion.hang g.generation) g.get? := by
  induction qs generalizing g with
  | nil => rfl
  | cons q qs ih =>
    calc (g.settleAll (q :: qs)).get?
        = qs.foldl (Completion.hang (g.settle q.ticket q.reply).2.generation)
            (g.settle q.ticket q.reply).2.get? := ih _
      _ = (q :: qs).foldl (Completion.hang g.generation) g.get? := by
        rw [generation_settle, get?_settle, List.foldl_cons]

/-- What hangs does not depend on the order in which tickets for different models are settled. -/
theorem get?_settleAll_perm (h : qs.Perm rs) (distinct : (qs.map Completion.id).Nodup) :
    (g.settleAll qs).get? = (g.settleAll rs).get? := by
  rw [get?_settleAll, get?_settleAll]
  apply h.foldl_eq'
  intro q hq r hr hung
  -- completions for one model are one completion, as the models are distinct
  by_cases same : q.id = r.id
  · rw [List.inj_on_of_nodup_map distinct hq hr same]
  · exact Completion.hang_comm same g.generation hung

end Gallery

namespace Display

/-- A press of a control of a card, as an act. Nothing happens if the model is not on show. -/
def Act.ofPress (p : String × Control) : Act := .press p.1 p.2

def Act.ofCompletion (q : Completion) : Act := .finishCode q.ticket q.reply

/-- Acts that settle tickets in an order and press controls in an order. -/
inductive Interleaves : List Completion → List (String × Control) → List Act → Prop
  | nil : Interleaves [] [] []
  | settle {q : Completion} {qs : List Completion} {ps : List (String × Control)}
      {as : List Act} : Interleaves qs ps as → Interleaves (q :: qs) ps (.ofCompletion q :: as)
  | press {p : String × Control} {qs : List Completion} {ps : List (String × Control)}
      {as : List Act} : Interleaves qs ps as → Interleaves qs (p :: ps) (.ofPress p :: as)

variable {d : Display} {qs rs : List Completion} {ps : List (String × Control)} {as bs : List Act}

/-- What a completion is answered with on a display. -/
def answer (d : Display) (q : Completion) : Option String := (d.finishCode q.ticket q.reply).1

/-- What completions are answered with among acts, each with its answer, in their order. -/
def answers (d : Display) : List Act → List (Completion × Option String)
  | [] => []
  | .finishCode t reply :: as =>
    (⟨t, reply⟩, (d.finishCode t reply).1) :: (d.act (.finishCode t reply)).answers as
  | a :: as => (d.act a).answers as

theorem acts_cons (d : Display) (a : Act) (as : List Act) : d.acts (a :: as) = (d.act a).acts as :=
  rfl

theorem act_ofCompletion (d : Display) (q : Completion) :
    d.act (.ofCompletion q) = { d with gallery := (d.gallery.settle q.ticket q.reply).2 } := rfl

theorem acts_completions (d : Display) (qs : List Completion) :
    d.acts (qs.map .ofCompletion) = { d with gallery := d.gallery.settleAll qs } := by
  induction qs generalizing d with
  | nil => rfl
  | cons q qs ih => exact ih _

/-- A press moves the focus if the model is on show, and does nothing else. -/
theorem act_ofPress (d : Display) (p : String × Control) :
    ∃ f, ∀ g, ({ d with gallery := g } : Display).act (.ofPress p)
      = { d with focus := f, gallery := g } := by
  cases h : d.find p.1 with
  | error e =>
    refine ⟨d.focus, fun g => ?_⟩
    have refused : ({ d with gallery := g } : Display).find p.1 = .error e := h
    simp [act, Act.ofPress, move, refused, Except.map]
  | ok m =>
    refine ⟨SchemaBoard.press d.focus p.1 p.2, fun g => ?_⟩
    have found : ({ d with gallery := g } : Display).find p.1 = .ok m := h
    simp [act, Act.ofPress, move, found, Except.map, press]

/-- Settling a ticket and pressing a control may change places. -/
theorem act_comm (d : Display) (q : Completion) (p : String × Control) :
    (d.act (.ofCompletion q)).act (.ofPress p) = (d.act (.ofPress p)).act (.ofCompletion q) := by
  obtain ⟨f, hf⟩ := act_ofPress d p
  rw [act_ofCompletion, hf, show d.act (.ofPress p) = _ from hf d.gallery, act_ofCompletion]

theorem acts_comm (d : Display) (q : Completion) (ps : List (String × Control)) :
    (d.act (.ofCompletion q)).acts (ps.map .ofPress)
      = (d.acts (ps.map .ofPress)).act (.ofCompletion q) := by
  induction ps generalizing d with
  | nil => rfl
  | cons p ps ih => rw [List.map_cons, acts_cons, acts_cons, act_comm, ih]

/-- Acts in any order lead where the presses lead with the completions behind them. -/
theorem acts_interleaves (h : Interleaves qs ps as) (d : Display) :
    d.acts as = (d.acts (ps.map .ofPress)).acts (qs.map .ofCompletion) := by
  -- on the interleaving: a ticket that is settled first has all presses still before it
  induction h generalizing d with
  | nil => rfl
  | @settle q qs ps as _ ih =>
    calc d.acts (.ofCompletion q :: as)
        = ((d.act (.ofCompletion q)).acts (ps.map .ofPress)).acts (qs.map .ofCompletion) := ih _
      _ = (d.acts (ps.map .ofPress)).acts ((q :: qs).map .ofCompletion) := by
        rw [acts_comm]
        rfl
  | press _ ih => exact ih _

/-- Presses leave the gallery as it is. -/
theorem gallery_acts_presses (d : Display) (ps : List (String × Control)) :
    (d.acts (ps.map .ofPress)).gallery = d.gallery := by
  induction ps generalizing d with
  | nil => rfl
  | cons p ps ih =>
    obtain ⟨f, hf⟩ := act_ofPress d p
    rw [List.map_cons, acts_cons, ih, show d.act (.ofPress p) = _ from hf d.gallery]

/-- A completion is answered by the generation of the gallery alone. -/
theorem answer_eq (d : Display) (q : Completion) : d.answer q = q.brings? d.gallery.generation :=
  d.gallery.fst_settle q

/-- Completions are answered as if each were the first act. -/
theorem answers_interleaves (h : Interleaves qs ps as) (d : Display) :
    d.answers as = qs.map fun q => (q, d.answer q) := by
  induction h generalizing d with
  | nil => rfl
  | @settle q qs ps as _ ih =>
    have later (r : Completion) : (d.act (.ofCompletion q)).answer r = d.answer r := by
      rw [answer_eq, answer_eq, act_ofCompletion, Gallery.generation_settle]
    calc d.answers (.ofCompletion q :: as)
        = (q, d.answer q) :: (d.act (.ofCompletion q)).answers as := rfl
      _ = (q :: qs).map fun q => (q, d.answer q) := by
        simp only [ih, later, List.map_cons]
  | @press p qs ps as _ ih =>
    have later (r : Completion) : (d.act (.ofPress p)).answer r = d.answer r := by
      rw [answer_eq, answer_eq]
      exact congrArg (r.brings? ·.generation) (gallery_acts_presses d [p])
    calc d.answers (.ofPress p :: as) = (d.act (.ofPress p)).answers as := rfl
      _ = qs.map fun q => (q, d.answer q) := by simp only [ih, later]

/-- Two displays that nobody tells apart: one may have hung in another order. -/
structure Alike (d e : Display) : Prop where
  analysis : d.analysis = e.analysis
  focus : d.focus = e.focus
  generation : d.gallery.generation = e.gallery.generation
  hung : d.gallery.get? = e.gallery.get?

theorem Alike.cards {e : Display} (h : Alike d e) : d.cards = e.cards := by
  have card : d.card = e.card := by
    funext m
    simp only [Display.card, Display.modeOf, h.focus, h.hung]
  rw [Display.cards, Display.cards, h.analysis, card]

theorem Alike.html {e : Display} (h : Alike d e) : d.html = e.html := by
  rw [Display.html, Display.html, h.cards]

/-- Settle tickets for different models in any order, anywhere between the presses of controls: what
is on show, the focus and what hangs are the same in the end, and so are the cards and the page; and
every ticket is answered as it would have been at once. -/
theorem interleavings_agree (ha : Interleaves qs ps as) (hb : Interleaves rs ps bs)
    (perm : qs.Perm rs) (distinct : (qs.map Completion.id).Nodup) :
    Alike (d.acts as) (d.acts bs) ∧
    (d.acts as).cards = (d.acts bs).cards ∧ (d.acts as).html = (d.acts bs).html ∧
    d.answers as = (qs.map fun q => (q, d.answer q)) ∧
    d.answers bs = (rs.map fun q => (q, d.answer q)) := by
  have alike : Alike (d.acts as) (d.acts bs) := by
    rw [acts_interleaves ha, acts_interleaves hb, acts_completions, acts_completions]
    constructor
    · rfl
    · rfl
    · simp
    · exact Gallery.get?_settleAll_perm _ perm distinct
  exact ⟨alike, alike.cards, alike.html, answers_interleaves ha d, answers_interleaves hb d⟩

/-- Two models, the first as code; the code of the second hangs since before. -/
def pair : Display where
  analysis := some ⟨"s", [⟨"a", "A", ⟨0, 1⟩, [], ""⟩, ⟨"b", "B", ⟨1, 2⟩, [], ""⟩]⟩
  focus := some ⟨"a", .code⟩
  gallery := ⟨[("b", "old")], 2⟩

def arrived : Completion := ⟨⟨"a", ⟨⟨0, 1⟩, "s"⟩, 2⟩, .ok "new"⟩

def failed : Completion := ⟨⟨"b", ⟨⟨1, 2⟩, "s"⟩, 2⟩, .error (.status "u" 500)⟩

/-- The reply to a request for an earlier analysis. -/
def belated : Completion := ⟨⟨"c", ⟨⟨0, 9⟩, "r"⟩, 1⟩, .ok "late"⟩

/-- The tickets are settled first, or last and in another order. -/
theorem interleavings_agree_pair :
    (Alike
      (pair.acts [.ofCompletion arrived, .ofCompletion failed, .ofCompletion belated,
        .ofPress ("b", .table), .ofPress ("c", .table), .ofPress ("b", .collapse)])
      (pair.acts [.ofPress ("b", .table), .ofCompletion belated, .ofPress ("c", .table),
        .ofPress ("b", .collapse), .ofCompletion arrived, .ofCompletion failed])) ∧
    pair.answers [.ofPress ("b", .table), .ofCompletion belated, .ofPress ("c", .table),
        .ofPress ("b", .collapse), .ofCompletion arrived, .ofCompletion failed]
      = [(belated, none), (arrived, some (Html.clean "new")), (failed, none)] := by
  have perm : ([arrived, failed] ++ [belated]).Perm ([belated] ++ [arrived, failed]) :=
    List.perm_append_comm
  obtain ⟨alike, -, -, -, answers⟩ := interleavings_agree (d := pair)
    (.settle (.settle (.settle (.press (.press (.press .nil))))))
    (.press (.settle (.press (.press (.settle (.settle .nil)))))) perm (by decide)
  exact ⟨alike, answers⟩

end Display
end SchemaBoard
