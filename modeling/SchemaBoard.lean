import SchemaBoard.Board.Describe
import SchemaBoard.Desk.Basic
import SchemaBoard.Intake.Folder
import SchemaBoard.Json.Ascii
import SchemaBoard.Json.Format.Read
import SchemaBoard.Remote.Canned
import SchemaBoard.Remote.Wire
import SchemaBoard.Store.Script
import SchemaBoard.Proofs.Store.Course
import SchemaBoard.Proofs.Store.Delivery
import SchemaBoard.Proofs.Board.Act
import SchemaBoard.Proofs.Board.Focus
import SchemaBoard.Proofs.Board.Refusal
import SchemaBoard.Proofs.Desk.Course
import SchemaBoard.Proofs.Desk.Coherence
import SchemaBoard.Proofs.Desk.Exclusion
import SchemaBoard.Proofs.Desk.Supersession
import SchemaBoard.Proofs.Board.Career
import SchemaBoard.Proofs.Desk.Highlights
import SchemaBoard.Proofs.Html.Part
import SchemaBoard.Proofs.Board.Page
import SchemaBoard.Proofs.Html.Nesting
import SchemaBoard.Proofs.Desk.PageSafety
import SchemaBoard.Proofs.Desk.Consistency
import SchemaBoard.Proofs.Json.Grammar
import SchemaBoard.Proofs.Json.Numeral
import SchemaBoard.Proofs.Json.Quotation
import SchemaBoard.Proofs.Json.Parts
import SchemaBoard.Proofs.Json.Parse
import SchemaBoard.Proofs.Json.Tree
import SchemaBoard.Proofs.Json.Form
import SchemaBoard.Proofs.Reply.Admission
import SchemaBoard.Proofs.Reply.Coverage
import SchemaBoard.Proofs.Reply.Decoding
import SchemaBoard.Proofs.Reply.WireFormat
import SchemaBoard.Proofs.Reply.Pointer
import SchemaBoard.Proofs.Reply.Keywords
import SchemaBoard.Proofs.Reply.Report
import SchemaBoard.Proofs.Store.Recovery
import SchemaBoard.Proofs.Board.Docket
import SchemaBoard.Proofs.Board.Requests
import SchemaBoard.Proofs.Json.Skip
import SchemaBoard.Proofs.Json.Print
import SchemaBoard.Proofs.Json.Direct
import SchemaBoard.Proofs.Reply.RoundTrip
import SchemaBoard.Proofs.Store.Membership
import SchemaBoard.Proofs.Store.Numbering
import SchemaBoard.Proofs.Store.Rest
import SchemaBoard.Proofs.Html.Sequence
import SchemaBoard.Proofs.Text.Replacement
import SchemaBoard.Proofs.Text.Escape
import SchemaBoard.Proofs.Text.Delimited
import SchemaBoard.Proofs.Board.Distinction
import SchemaBoard.Proofs.Board.Layout
import SchemaBoard.Proofs.Board.Containment
import SchemaBoard.Proofs.Board.Completion
import SchemaBoard.Proofs.Board.Interleaving
import SchemaBoard.Proofs.Board.Demand
import SchemaBoard.Proofs.Remote.Receipt
import SchemaBoard.Proofs.Desk.Upload
import SchemaBoard.Proofs.Reply.Agreement
import SchemaBoard.Proofs.Intake.Acceptance
import SchemaBoard.Proofs.Remote.Origin
import SchemaBoard.Proofs.Store.Subscription
import SchemaBoard.Proofs.Store.Keeping
import SchemaBoard.Proofs.Store.Ownership
import SchemaBoard.Proofs.Html.Fidelity
