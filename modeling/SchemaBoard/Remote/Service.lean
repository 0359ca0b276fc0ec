import SchemaBoard.Intake.File
import SchemaBoard.Reply.Decode

/-!
# The service

The two operations of the remote service, over the state of whatever stands between it and us: what
was sent so far, and what will come back.
-/
namespace SchemaBoard.Remote

structure Service (σ : Type) where
  analyse : σ → Intake.File → Except Reply.Failure Analysis × σ
  highlight : σ → HighlightRequest → Except Reply.Failure String × σ

end SchemaBoard.Remote
