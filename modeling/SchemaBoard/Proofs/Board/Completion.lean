import Mathlib.Logic.Function.Basic
import SchemaBoard.Board.Display

/-!
# Completions

What a ticket and the reply that came for it do to a gallery. What they bring depends on the
generation of the gallery alone, and they change what hangs for one model alone. Main statements:
`get?_settle`, `hang_comm`.
-/
namespace SchemaBoard

/-- A ticket with the reply that comes for it. -/
structure Completion where
  ticket : Ticket
  reply : Except Reply.Failure String

namespace Completion

variable {q r : Completion} {hung : String → Option String} {n : Nat}

def id (q : Completion) : String := q.ticket.id

/-- The clean markup that a completion brings to a gallery of a generation; none if it failed, or if
the gallery has been cleared since the ticket was handed out. -/
def brings? (n : Nat) (q : Completion) : Option String :=
  if q.ticket.generation = n then q.reply.toOption.map Html.clean else none

/-- What hangs for each model, once a completion has come. -/
def hang (n : Nat) (hung : String → Option String) (q : Completion) : String → Option String :=
  (q.brings? n).elim hung fun html => Function.update hung q.id (some html)

theorem hang_of_none (h : q.brings? n = none) : q.hang n hung = hung := by
  simp [hang, h]

theorem hang_of_some {html : String} (h : q.brings? n = some html) :
    q.hang n hung = Function.update hung q.id (some html) := by
  simp [hang, h]

/-- Where nothing hangs, what a completion brings is what hangs. -/
theorem hang_update_none : q.hang n (Function.update hung q.id none)
    = Function.update hung q.id (q.brings? n) := by
  cases h : q.brings? n with
  | none => rw [hang_of_none h]
  | some html => rw [hang_of_some h, Function.update_idem]

/-- Completions for different models do not get in each other's way. -/
theorem hang_comm (h : q.id ≠ r.id) (n : Nat) (hung : String → Option String) :
    r.hang n (q.hang n hung) = q.hang n (r.hang n hung) := by
  cases hq : q.brings? n with
  | none => rw [hang_of_none hq, hang_of_none hq]
  | some html =>
    cases hr : r.brings? n with
    | none => rw [hang_of_none hr, hang_of_none hr]
    | some other =>
      simp only [hang_of_some hq, hang_of_some hr]
      exact Function.update_comm h _ _ hung

end Completion

namespace Gallery

variable (g : Gallery) (q : Completion)

/-- A completion is answered with what it brings. -/
theorem fst_settle : (g.settle q.ticket q.reply).1 = q.brings? g.generation := by
  unfold settle Completion.brings?
  split
  · cases q.reply <;> rfl
  · rfl

@[simp] theorem generation_settle :
    (g.settle q.ticket q.reply).2.generation = g.generation := by
  unfold settle
  split
  · cases q.reply <;> rfl
  · rfl

theorem get?_hang (g : Gallery) (j html : String) :
    (g.hang j html).get? = Function.update g.get? j (some html) := by
  funext id
  by_cases h : id = j
  · rw [h, get?_hang_self, Function.update_self]
  · rw [get?_hang_of_ne _ _ h, Function.update_of_ne h]

theorem get?_remove (g : Gallery) (j : String) :
    (g.remove j).get? = Function.update g.get? j none := by
  funext id
  by_cases h : id = j
  · rw [h, get?_remove_self, Function.update_self]
  · rw [g.get?_remove_of_ne h, Function.update_of_ne h]

theorem get?_settle : (g.settle q.ticket q.reply).2.get? = q.hang g.generation g.get? := by
  unfold settle Completion.hang Completion.brings?
  split
  · cases q.reply with
    | error f => rfl
    | ok html => exact get?_hang g q.id (Html.clean html)
  · rfl

end Gallery
end SchemaBoard
