import SchemaBoard.Proofs.Text.Charset
import SchemaBoard.Remote.Wire

/-!
# What is made of a report

A client reports that no answer came, or a status and what became of the body. An analysis takes a
status of success and a text that is decoded; anything else is a failure, and the report says which.
Over the wire a text that was sent in UTF-8 is reported as it was written. Main statements:
`analysis_ok_iff`, `analysis_error_iff`, `Wire.carries_text`.
-/
namespace SchemaBoard.Remote

open Reply (Failure Outage)

namespace Receipt

/-- A success was reported with this text. -/
def Carries (r : Receipt) (text : String) : Prop :=
  ∃ status, r = .answered status (.ok text) ∧ isSuccess status = true

/-- Why there is no analysis in what was reported. -/
inductive Fails (url : String) : Receipt → Failure → Prop where
  | unanswered (o : Outage) : Fails url (.nothing o) (.outage url o)
  | refused {status : Nat} (text : Except Outage String) (h : isSuccess status = false) :
      Fails url (.answered status text) (.status url status)
  | broken {status : Nat} (o : Outage) (h : isSuccess status = true) :
      Fails url (.answered status (.error o)) (.outage url o)
  | undecoded {status : Nat} {text : String} {e : Failure} (h : isSuccess status = true)
      (he : Reply.decodeAnalysis url text = .error e) : Fails url (.answered status (.ok text)) e

variable {url : String} {r : Receipt} {status : Nat}

theorem body_ok (h : isSuccess status = true) (text : String) :
    body url (.answered status (.ok text)) = .ok text :=
  if_pos h

theorem body_broken (h : isSuccess status = true) (o : Outage) :
    body url (.answered status (.error o)) = .error (.outage url o) :=
  if_pos h

theorem body_refused (h : isSuccess status = false) (text : Except Outage String) :
    body url (.answered status text) = .error (.status url status) :=
  if_neg (by simp [h])

theorem body_ok_iff {text : String} : r.body url = .ok text ↔ r.Carries text := by
  constructor
  · intro h
    cases r with
    | nothing o => cases h
    | answered status body =>
      cases success : isSuccess status with
      | false =>
        rw [body_refused success] at h
        cases h
      | true =>
        cases body with
        | error o =>
          rw [body_broken success] at h
          cases h
        | ok t =>
          rw [body_ok success] at h
          obtain rfl := Except.ok.inj h
          exact ⟨status, rfl, success⟩
  · rintro ⟨status, rfl, success⟩
    exact body_ok success text

theorem analysis_ok_iff {a : Analysis} :
    (r.body url).bind (Reply.decodeAnalysis url) = .ok a ↔
      ∃ text, r.Carries text ∧ Reply.decodeAnalysis url text = .ok a := by
  have carries (text : String) : r.Carries text ↔ r.body url = .ok text := body_ok_iff.symm
  simp only [carries]
  cases r.body url <;> simp [Except.bind]

theorem analysis_error_iff {e : Failure} :
    (r.body url).bind (Reply.decodeAnalysis url) = .error e ↔ r.Fails url e := by
  constructor
  · intro h
    cases r with
    | nothing o =>
      obtain rfl := Except.error.inj h
      exact .unanswered o
    | answered status text =>
      cases success : isSuccess status with
      | false =>
        rw [body_refused success] at h
        obtain rfl := Except.error.inj h
        exact .refused text success
      | true =>
        cases text with
        | error o =>
          rw [body_broken success] at h
          obtain rfl := Except.error.inj h
          exact .broken o success
        | ok text =>
          rw [body_ok success] at h
          exact .undecoded success h
  · rintro (_ | ⟨_, h⟩ | ⟨_, h⟩ | ⟨h, he⟩)
    · rfl
    · rw [body_refused h]
      rfl
    · rw [body_broken h]
      rfl
    · rw [body_ok h]
      exact he

end Receipt

/-! ## Over the wire -/

namespace MediaType

/-- Bytes that are read as a text: in UTF-8 if the media type says so, or behind the mark of UTF-8
whatever it says. -/
inductive Writes (mediaType : Option String) (text : String) : List UInt8 → Prop where
  | plain (encoding : charset? mediaType = some .utf8)
      (unmarked : text.toList.head? ≠ some Text.mark) : Writes mediaType text (Text.utf8Bytes text)
  | marked : Writes mediaType text (0xef :: 0xbb :: 0xbf :: Text.utf8Bytes text)

theorem decode_of_writes {mediaType : Option String} {text : String} {bs : List UInt8}
    (h : Writes mediaType text bs) (decoder? : String → Option (List UInt8 → List Char)) :
    decode decoder? mediaType bs = text := by
  unfold decode
  cases h with
  | plain encoding unmarked =>
    rw [encoding]
    exact Text.decode_utf8 unmarked
  | marked =>
    split
    · exact Text.decode_marked _ text
    · exact Text.decode_marked .utf8 text

end MediaType

namespace Wire

variable {w : Wire} {url : String} {a : Address}

/-- A message to where the server is, is sent there, and the next answer is reported. -/
theorem post_of_reached (parsed : Address.parse? w.wireName? url = some a)
    (reached : w.reaches a = true) (m : Message) :
    w.post url m = ((w.answers.headD .unknown).receipt (MediaType.decode w.decoder?) a.print,
      { w with answers := w.answers.tail, sent := m.sent a.target :: w.sent }) := by
  simp [post, parsed, reached]

/-- A success with a whole body in UTF-8 is reported with the text that was written. -/
theorem carries_text (parsed : Address.parse? w.wireName? url = some a)
    (reached : w.reaches a = true) {status : Nat} {mediaType : Option String} {text : String}
    {body : List UInt8} (next : w.answers.head? = some (.full status mediaType body 0))
    (success : isSuccess status = true) (content : status ≠ WireAnswer.noContent)
    (written : MediaType.Writes mediaType text body) (m : Message) :
    (w.post url m).1.Carries text := by
  have final : WireAnswer.isFinal status = true := by
    simp only [isSuccess, Bool.and_eq_true, decide_eq_true_eq] at success
    simp only [WireAnswer.isFinal, Bool.or_eq_true, Bool.and_eq_true, decide_eq_true_eq]
    omega
  have here : w.answers.headD .unknown = .full status mediaType body 0 := by
    rw [List.headD_eq_head?_getD, next, Option.getD_some]
  rw [post_of_reached parsed reached, here]
  refine ⟨status, ?_, success⟩
  simp [WireAnswer.receipt, WireAnswer.text, final, content, MediaType.decode_of_writes written]

end Wire
end SchemaBoard.Remote
