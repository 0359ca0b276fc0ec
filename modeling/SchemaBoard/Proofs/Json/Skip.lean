import SchemaBoard.Json.Skip
import SchemaBoard.Proofs.Json.Parse

/-!
# Values are passed over as they are written

A value is passed over without being read, with a list of the brackets that are open instead of
recursion. Behind a value the passing resumes with what is open around it, so a value may stand
anywhere; it uses up no more rounds than it has characters. Main statement: `passValue_complete`.
-/
namespace SchemaBoard.Json

variable {c : Cursor} {b w r : List Char} {depth : Nat}

/-! ## Numbers -/

theorem passDigits_complete {ds : List Char} (hd : IsDigits ds) (hr : NoDigit r)
    (hc : c.rest = ds ++ r) : ∃ q, passDigits c = ⟨r, q⟩ := by
  obtain ⟨q, hq⟩ := exists_advance hc
  exact ⟨q, by rw [passDigits, leadingDigits_append hc hd hr, hq]⟩

theorem passExponent_complete {p : Power} (hp : p.IsValid) (hr : NoDigit r)
    (hc : c.rest = p.write ++ r) : ∃ q, passExponent c = .ok ⟨r, q⟩ := by
  have mark : (c.advance 1).rest = p.sign.toList ++ (p.digits ++ r) := by
    simp [Cursor.advance, hc, Power.write]
  obtain ⟨-, behind⟩ := sign_append hp.digits hp.sign mark
  rw [passExponent]
  generalize (if startsWith (fun d => d = '+' || d = '-') (c.advance 1) then (c.advance 1).advance 1
    else c.advance 1) = a at behind ⊢
  obtain ⟨q, hq⟩ := passDigits_complete hp.digits hr behind
  have some : p.digits.isEmpty = false := by simp [hp.digits.1]
  exact ⟨q, by simp [leadingDigits_append behind hp.digits hr, some, hq]⟩

/-- A power of ten, if there is one, is passed behind digits. -/
theorem passPower_complete {power : Option Power} (hp : ∀ p ∈ power, p.IsValid)
    (hr : EndsNumber r) (hc : c.rest = power.elim [] Power.write ++ r) :
    ∃ q, (if startsWith isExponentMark c then passExponent c else .ok c) = .ok ⟨r, q⟩ := by
  cases power with
  | none =>
    obtain rfl : c.rest = r := hc
    have mark : startsWith isExponentMark c = false :=
      startsWith_eq_false fun d hd => (hr d hd).2.2
    exact ⟨c.position, by rw [mark]; rfl⟩
  | some p =>
    have mark : startsWith isExponentMark c = true := by
      simp [startsWith, hc, Power.write, (hp p rfl).mark]
    rw [if_pos mark]
    exact passExponent_complete (hp p rfl) hr.noDigit hc

theorem passFraction_complete {ds : List Char} {power : Option Power} (hd : IsDigits ds)
    (hp : ∀ p ∈ power, p.IsValid) (hr : EndsNumber r)
    (hc : c.rest = Literal.behindWhole (some ds) power ++ r) :
    ∃ q, passFraction c = .ok ⟨r, q⟩ := by
  have point : (c.advance 1).rest = ds ++ (power.elim [] Power.write ++ r) := by
    simp [Cursor.advance, hc, Literal.behindWhole]
  rw [passFraction]
  generalize c.advance 1 = a at point ⊢
  have stop := noDigit_power hp hr.noDigit
  obtain ⟨q, hq⟩ := passDigits_complete hd stop point
  have some : ds.isEmpty = false := by simp [hd.1]
  simp only [leadingDigits_append point hd stop, some, hq, Bool.false_eq_true, if_false]
  exact passPower_complete hp hr rfl

theorem passNumber_complete {l : Literal} (hl : l.IsValid) (hr : EndsNumber r)
    (hc : c.rest = l.magnitude ++ r) : ∃ q, passNumber c = .ok ⟨r, q⟩ := by
  have whole : c.rest = l.whole ++ (Literal.behindWhole l.fraction l.power ++ r) := by
    rw [hc, Literal.magnitude, List.append_assoc]
  have stop : NoDigit (Literal.behindWhole l.fraction l.power ++ r) :=
    noDigit_behindWhole hl.power hr.noDigit
  obtain ⟨p, hp⟩ := passDigits_complete hl.whole stop whole
  obtain ⟨d, more, hw, -⟩ := hl.whole.exists_cons
  have lead : ¬(d = '0' && !more.isEmpty) = true := by
    have := hl.lead
    simp only [hw, List.head?_cons, Option.some.injEq, List.cons.injEq] at this
    simpa using fun h => (this h).2
  rw [passNumber, leadingDigits_append whole hl.whole stop, hw]
  simp only [if_neg lead, hp]
  cases hf : l.fraction with
  | some ds =>
    have point : startsWith (· = '.') ⟨Literal.behindWhole (some ds) l.power ++ r, p⟩ = true := by
      simp [startsWith, Literal.behindWhole]
    rw [if_pos point]
    exact passFraction_complete (hl.fraction ds hf) hl.power hr rfl
  | none =>
    have point : startsWith (· = '.') ⟨Literal.behindWhole none l.power ++ r, p⟩ = false := by
      refine startsWith_eq_false fun d hd => decide_eq_false ?_
      cases hx : l.power with
      | none => exact (hr d (by simpa [Literal.behindWhole, hx] using hd)).2.1
      | some x =>
        obtain rfl : x.mark = d := by simpa [Literal.behindWhole, hx, Power.write] using hd
        exact (hl.power x hx).mark_ne_point
    rw [point]
    exact passPower_complete hl.power hr rfl

/-! ## Strings -/

theorem passChars_escape {fuel : Nat} {v : List Char} {p : Position} (hc : c.rest = '\\' :: v)
    (he : passEscape (c.advance 1) = .ok ⟨r, p⟩) :
    passChars (fuel + 1) c = passChars fuel ⟨r, p⟩ := by
  simp [passChars, hc, he, bind, Except.bind]

theorem passChars_short (fuel : Nat) {d e : Char} (he : shortEscape? d = some e)
    (hc : c.rest = '\\' :: d :: r) : ∃ p, passChars (fuel + 1) c = passChars fuel ⟨r, p⟩ :=
  ⟨((c.advance 1).advance 1).position,
    passChars_escape hc (by simp [passEscape, hc, he, Cursor.advance])⟩

theorem passChars_unit (fuel : Nat) {x y z w : Char} {n : Nat} (hn : hexNumber? x y z w = some n)
    (hc : c.rest = '\\' :: 'u' :: x :: y :: z :: w :: r) :
    ∃ p, passChars (fuel + 1) c = passChars fuel ⟨r, p⟩ := by
  have letter : (c.advance 1).rest = 'u' :: x :: y :: z :: w :: r := by simp [Cursor.advance, hc]
  obtain ⟨p, hp⟩ := readHex_complete (c := (c.advance 1).advance 1) (r := r) hn
    (by simp [Cursor.advance, hc])
  exact ⟨p, passChars_escape hc (by simp [passEscape, letter, shortEscape?, hp, Except.map])⟩

/-- Of an escape of two parts each takes a round of its own. -/
theorem passChars_complete {fuel : Nat} {cs q : List Char} (hq : Spelled cs q)
    (fits : q.length < fuel) (hc : c.rest = q ++ '\x22' :: r) :
    ∃ p, passChars fuel c = .ok ⟨r, p⟩ := by
  induction hq generalizing fuel c with
  | nil =>
    obtain ⟨fuel, rfl⟩ := Nat.exists_eq_succ_of_ne_zero (Nat.ne_zero_of_lt fits)
    exact ⟨(c.advance 1).position, by simp [passChars, hc, Cursor.advance]⟩
  | @cons e cs w q he _ ih =>
    obtain ⟨fuel, rfl⟩ := Nat.exists_eq_succ_of_ne_zero (Nat.ne_zero_of_lt fits)
    have tail {k : Nat} (hk : q.length < k) (p : Position) :
        ∃ p', passChars k ⟨q ++ '\x22' :: r, p⟩ = .ok ⟨r, p'⟩ := ih hk rfl
    cases he with
    | plain hn quote slash =>
      obtain ⟨p, hp⟩ := tail (k := fuel) (by simp at fits; omega) (c.position.after e)
      exact ⟨p, by simpa [passChars, hc, quote, slash, Nat.not_lt.2 hn] using hp⟩
    | short he =>
      obtain ⟨p, hp⟩ := passChars_short fuel he (by simpa using hc)
      rw [hp]
      exact tail (by simp at fits; omega) p
    | unit hn _ _ =>
      obtain ⟨p, hp⟩ := passChars_unit fuel hn (by simpa using hc)
      rw [hp]
      exact tail (by simp at fits; omega) p
    | pair hn hm _ _ =>
      obtain ⟨fuel, rfl⟩ : ∃ k, fuel = k + 1 := ⟨fuel - 1, by simp at fits; omega⟩
      obtain ⟨p, hp⟩ := passChars_unit (fuel + 1) hn (by simpa using hc)
      obtain ⟨p', hp'⟩ := passChars_unit fuel hm (c := ⟨_, p⟩) rfl
      rw [hp, hp']
      exact tail (by simp at fits; omega) p'

theorem passQuotation_complete {s : String} (hw : Quoted s ('\x22' :: w)) (hc : c.rest = w ++ r) :
    ∃ p, passQuotation c = .ok ⟨r, p⟩ := by
  obtain ⟨q, hq, hw⟩ := hw
  obtain rfl := (List.cons.inj hw).2
  have fits : q.length < c.rest.length + 1 := by
    simp only [hc, List.length_append]
    omega
  exact passChars_complete hq fits (by simpa using hc)

/-! ## Scalars -/

theorem passStart_number (n : Numeral) {a : Cursor} (hs : c.skip = a) (hr : EndsValue r)
    (hc : a.rest = n.write ++ r) : ∃ p, passStart c = .ok (none, ⟨r, p⟩) := by
  cases hn : n.negative with
  | true =>
    have behind : a.rest = '-' :: (n.magnitude ++ r) := by simpa [Literal.write, hn] using hc
    obtain ⟨p, hp⟩ := passNumber_complete (c := a.advance 1) n.valid hr.endsNumber
      (by simp [Cursor.advance, behind])
    exact ⟨p, by simp [passStart, hs, behind, hp, Except.map]⟩
  | false =>
    obtain ⟨d, more, whole, digit⟩ := n.valid.whole.exists_cons
    have behind : a.rest = d :: (more ++ Literal.behindWhole n.fraction n.power ++ r) := by
      simp [hc, Literal.write, hn, Literal.magnitude, whole]
    have others : d ≠ 'n' ∧ d ≠ 't' ∧ d ≠ 'f' ∧ d ≠ '-' :=
      ⟨ne_of_isDigit digit (by decide), ne_of_isDigit digit (by decide),
        ne_of_isDigit digit (by decide), ne_of_isDigit digit (by decide)⟩
    obtain ⟨p, hp⟩ := passNumber_complete n.valid hr.endsNumber
      (by simpa [Literal.write, hn] using hc)
    exact ⟨p, by simp [passStart, hs, behind, hp, others, digit, Except.map]⟩

theorem passStart_scalar {t : Tree} {a : Cursor} (hs : c.skip = a) (hw : WrittenScalar t w)
    (hr : EndsValue r) (hc : a.rest = w ++ r) : ∃ p, passStart c = .ok (none, ⟨r, p⟩) := by
  cases t with
  | null =>
    obtain rfl : w = _ := hw
    obtain ⟨p, hp⟩ := @word_complete a r _ 'n' "ull".toList (none : Option Bracket) hc
    exact ⟨p, by simpa [passStart, hs, hc] using hp⟩
  | bool x =>
    obtain rfl : w = _ := hw
    cases x with
    | true =>
      obtain ⟨p, hp⟩ := @word_complete a r _ 't' "rue".toList (none : Option Bracket) hc
      exact ⟨p, by simpa [passStart, hs, hc] using hp⟩
    | false =>
      obtain ⟨p, hp⟩ := @word_complete a r _ 'f' "alse".toList (none : Option Bracket) hc
      exact ⟨p, by simpa [passStart, hs, hc] using hp⟩
  | number n =>
    obtain rfl : w = n.write := hw
    exact passStart_number n hs hr hc
  | string s =>
    obtain ⟨q, hq, rfl⟩ := hw
    have behind : (a.advance 1).rest = (q ++ ['\x22']) ++ r := by simp [Cursor.advance, hc]
    obtain ⟨p, hp⟩ := passQuotation_complete ⟨q, hq, rfl⟩ behind
    exact ⟨p, by simp [passStart, hs, hc, hp, Except.map]⟩
  | array ts => exact absurd hw id
  | object ms => exact absurd hw id

/-! ## Rounds -/

/-- Go on inside what is open: with the next item of a list, or with the name of the next member of
an object. -/
def enter (fuel : Nat) (opened : List Bracket) (c : Cursor) : Except Fault Cursor :=
  match opened with
  | [] => .ok c
  | .list :: _ => passValues fuel opened c
  | .object :: _ => do
    let c ← passKey c
    passValues fuel opened c

/-- Go on behind a value. -/
def resume (fuel : Nat) (outer : List Bracket) (c : Cursor) : Except Fault Cursor := do
  let (opened, c) ← passEnd outer true c
  enter fuel opened c

theorem passValues_of_scalar {fuel : Nat} {outer : List Bracket} {c' : Cursor}
    (h : passStart c = .ok (none, c')) : passValues (fuel + 1) outer c = resume fuel outer c' := by
  simp only [passValues, h, resume, bind, Except.bind]
  rfl

/-- The bracket with which a list or an object begins. -/
def Bracket.opening : Bracket → Char
  | .list => '['
  | .object => '\x7b'

theorem passStart_opening (B : Bracket) (hb : Blank b) (hc : c.rest = b ++ B.opening :: r) :
    ∃ p, passStart c = .ok (some B, ⟨r, p⟩) := by
  obtain ⟨p, hp⟩ := exists_skip hb (by cases B <;> simp [Bracket.opening, Cursor.isBlank]) hc
  exact ⟨_, by cases B <;> simp [passStart, hp, Bracket.opening, Cursor.advance] <;> rfl⟩

/-- Behind an opening bracket comes the first part, or what is open is closed. -/
theorem passValues_of_opening {fuel : Nat} {outer : List Bracket} {c' : Cursor} {B : Bracket}
    (h : passStart c = .ok (some B, c')) :
    passValues (fuel + 1) outer c = (do
      let (opened, c) ← passEnd (B :: outer) false c'
      enter fuel opened c) := by
  simp only [passValues, h, bind, Except.bind]
  rfl

variable {B : Bracket} {outer : List Bracket} {k : Nat}

theorem Bracket.closing_cases (B : Bracket) : B.closing = ']' ∨ B.closing = '\x7d' := by
  cases B
  · exact .inl rfl
  · exact .inr rfl

theorem passEnd_closing (comma : Bool) (outer : List Bracket) (hb : Blank b)
    (hc : c.rest = b ++ B.closing :: r) :
    ∃ p, passEnd (B :: outer) comma c = passEnd outer true ⟨r, p⟩ := by
  obtain ⟨p, hp⟩ := exists_skip hb (by cases B <;> simp [Bracket.closing, Cursor.isBlank]) hc
  refine ⟨((⟨B.closing :: r, p⟩ : Cursor).advance 1).position, ?_⟩
  have other : B.closing ≠ ',' := by cases B <;> decide
  simp [passEnd, hp, other, Cursor.advance]

theorem passEnd_first (outer : List Bracket) {d : Char} (hb : Blank b)
    (hd : Cursor.isBlank d = false) (other : d ≠ B.closing) (hc : c.rest = b ++ d :: r) :
    ∃ p, passEnd (B :: outer) false c = .ok (B :: outer, ⟨d :: r, p⟩) := by
  obtain ⟨p, hp⟩ := exists_skip (w := d :: r) hb (by simpa using hd) hc
  exact ⟨p, by simp [passEnd, hp, other]⟩

theorem resume_closing (hb : Blank b) (hc : c.rest = b ++ B.closing :: r) :
    ∃ p, resume k (B :: outer) c = resume k outer ⟨r, p⟩ := by
  obtain ⟨p, hp⟩ := passEnd_closing true outer hb hc
  exact ⟨p, by rw [resume, hp, resume]⟩

theorem resume_comma (k : Nat) (outer : List Bracket) (hb : Blank b) (hc : c.rest = b ++ ',' :: r) :
    ∃ p, resume k (B :: outer) c = enter k (B :: outer) ⟨r, p⟩ := by
  obtain ⟨p, hp⟩ := exists_skip hb (by simp [Cursor.isBlank]) hc
  exact ⟨_, by simp [resume, passEnd, hp, Cursor.advance, bind, Except.bind]; rfl⟩

/-! ## Values -/

/-- A text that is passed as a value wherever it stands, in no more rounds than it has characters.
-/
def Passes (w : List Char) : Prop :=
  ∃ n, n ≤ w.length ∧ ∀ (outer : List Bracket) (k : Nat) {c : Cursor} {b r : List Char}, Blank b →
    EndsValue r → c.rest = b ++ (w ++ r) →
    ∃ p, passValues (n + k) outer c = resume k outer ⟨r, p⟩

/-- A text that is passed as a part between brackets. -/
structure PassesIn (B : Bracket) (w : List Char) : Prop where
  opens : ∃ d v, w = d :: v ∧ Cursor.isBlank d = false ∧ d ≠ B.closing
  passed : ∃ n, n ≤ w.length ∧ ∀ (outer : List Bracket) (k : Nat) {c : Cursor} {b r : List Char},
    Blank b → EndsValue r → c.rest = b ++ (w ++ r) →
    ∃ p, enter (n + k) (B :: outer) c = resume k (B :: outer) ⟨r, p⟩

/-- Behind one part, the others and the closing bracket are passed. -/
theorem resume_parts {α : Type} {part : α → List Char → Prop}
    (h : ∀ {a w}, part a w → PassesIn B w) {first : Bool} (hf : first = false) {as : List α}
    (hw : Parts part first as w) :
    ∃ n, n ≤ w.length ∧ ∀ (outer : List Bracket) (k : Nat) {c : Cursor} {b r : List Char},
      Blank b → c.rest = w ++ (b ++ B.closing :: r) →
      ∃ p, resume (n + k) (B :: outer) c = resume k outer ⟨r, p⟩ := by
  induction hw with
  | nil =>
    refine ⟨0, Nat.le_refl _, fun outer k c b r hb hc => ?_⟩
    rw [Nat.zero_add]
    exact resume_closing hb hc
  | @cons first a as x w q lead hw more ih =>
    subst hf
    obtain ⟨y, z, hy, hz, rfl⟩ := lead
    obtain ⟨n, hn, pass⟩ := (h hw).passed
    obtain ⟨m, hm, rest⟩ := ih rfl
    refine ⟨n + m, by simp; omega, fun outer k c b r hb hc => ?_⟩
    have tail : EndsValue (q ++ (b ++ B.closing :: r)) :=
      endsValue_parts more hb B.closing_cases r
    obtain ⟨p₁, comma⟩ := resume_comma (n + m + k) outer (B := B) (c := c)
      (r := z ++ (w ++ (q ++ (b ++ B.closing :: r)))) hy (by simpa using hc)
    obtain ⟨p₂, here⟩ := pass outer (m + k) (c := ⟨_, p₁⟩) hz tail rfl
    obtain ⟨p, there⟩ := rest outer k (c := ⟨_, p₂⟩) hb rfl
    exact ⟨p, by rw [comma, Nat.add_assoc, here, there]⟩

theorem passes_enclosed {α : Type} {part : α → List Char → Prop}
    (h : ∀ {a w}, part a w → PassesIn B w) {as : List α}
    (hw : Enclosed B.opening B.closing part as w) : Passes w := by
  obtain ⟨q, x, hq, hx, rfl⟩ := hw
  cases hq with
  | nil =>
    refine ⟨1, by simp, fun outer k c b r hb _ hc => ?_⟩
    obtain ⟨p₁, start⟩ := passStart_opening B (r := x ++ B.closing :: r) hb (by simpa using hc)
    obtain ⟨p, close⟩ := passEnd_closing false outer
      (c := ⟨x ++ B.closing :: r, p₁⟩) hx rfl
    exact ⟨p, by rw [Nat.add_comm, passValues_of_opening start, close, resume]⟩
  | @cons _ a as y v q lead hv more =>
    obtain ⟨n, hn, pass⟩ := (h hv).passed
    obtain ⟨m, hm, rest⟩ := resume_parts h rfl more
    refine ⟨1 + (n + m), by simp; omega, fun outer k c b r hb _ hc => ?_⟩
    have tail : EndsValue (q ++ (x ++ B.closing :: r)) :=
      endsValue_parts more hx B.closing_cases r
    obtain ⟨p₁, start⟩ := passStart_opening B (r := y ++ (v ++ (q ++ (x ++ B.closing :: r)))) hb
      (by simpa using hc)
    obtain ⟨d, u, hd, blank, other⟩ := (h hv).opens
    obtain ⟨p₂, first⟩ := passEnd_first outer
      (c := ⟨y ++ (v ++ (q ++ (x ++ B.closing :: r))), p₁⟩) lead blank other (by rw [hd]; rfl)
    obtain ⟨p₃, here⟩ := pass outer (m + k)
      (c := ⟨d :: (u ++ (q ++ (x ++ B.closing :: r))), p₂⟩) (b := []) nofun tail (by rw [hd]; rfl)
    obtain ⟨p, there⟩ := rest outer k (c := ⟨_, p₃⟩) hx rfl
    refine ⟨p, ?_⟩
    rw [show 1 + (n + m) + k = n + (m + k) + 1 by omega, passValues_of_opening start, first]
    exact here.trans there

theorem Passes.item (h : Passes w) (opens : Opens w) : PassesIn .list w := by
  obtain ⟨n, hn, pass⟩ := h
  exact ⟨opens, n, hn, fun outer k _ _ _ hb hr hc => pass (.list :: outer) k hb hr hc⟩

theorem passKey_complete {name : String} {q x : List Char} (hb : Blank b) (hq : Quoted name q)
    (hx : Blank x) (hc : c.rest = b ++ (q ++ (x ++ ':' :: r))) :
    ∃ p, passKey c = .ok ⟨r, p⟩ := by
  obtain ⟨v, hv, rfl⟩ := hq
  obtain ⟨u, hu⟩ : ∃ u, v ++ ['\x22'] ++ (x ++ ':' :: r) = u := ⟨_, rfl⟩
  obtain ⟨p₁, skip⟩ := exists_skip (w := '\x22' :: u) hb (by simp [Cursor.isBlank])
    (by simpa [← hu] using hc)
  obtain ⟨p₂, name⟩ := passQuotation_complete (c := (⟨'\x22' :: u, p₁⟩ : Cursor).advance 1)
    ⟨v, hv, rfl⟩ hu.symm
  obtain ⟨p, colon⟩ := readColon_complete (c := ⟨x ++ ':' :: r, p₂⟩) hx rfl
  exact ⟨p, by simpa [passKey, skip, name, bind, Except.bind] using colon⟩

theorem passesIn_member {α : Type} {part : α → List Char → Prop}
    (h : ∀ {a w}, part a w → Passes w) {m : String × α} (hw : MemberText part m w) :
    PassesIn .object w := by
  obtain ⟨q, x, y, v, hq, hx, hy, hv, rfl⟩ := hw
  obtain ⟨n, hn, pass⟩ := h hv
  constructor
  · obtain ⟨u, -, rfl⟩ := hq
    exact ⟨'\x22', _, rfl, by decide, by decide⟩
  · refine ⟨n, by simp; omega, fun outer k c b r hb hr hc => ?_⟩
    obtain ⟨p₁, key⟩ := passKey_complete (r := y ++ (v ++ r)) hb hq hx (by simpa using hc)
    obtain ⟨p, value⟩ := pass (.object :: outer) k (c := ⟨_, p₁⟩) hy hr rfl
    exact ⟨p, by simpa [enter, key, bind, Except.bind] using value⟩

theorem passes_scalar {t : Tree} (hw : WrittenScalar t w) : Passes w := by
  obtain ⟨d, v, rfl, -⟩ := hw.exists_cons
  refine ⟨1, by simp, fun outer k c b r hb hr hc => ?_⟩
  obtain ⟨p, skip⟩ := exists_skip hb (hw.opens.append r).head hc
  obtain ⟨p', start⟩ := passStart_scalar skip hw hr rfl
  exact ⟨p', by rw [Nat.add_comm, passValues_of_scalar start]⟩

/-- Whatever is written as a value is passed as one. -/
theorem Written.passes {t : Tree} (hw : Written depth t w) : Passes w := by
  induction depth generalizing t w with
  | zero => exact passes_scalar (written_zero_iff.1 hw)
  | succ depth ih =>
    cases t with
    | array ts => exact passes_enclosed (B := .list) (fun h => (ih h).item h.opens) hw
    | object ms => exact passes_enclosed (B := .object) (fun h => passesIn_member ih h) hw
    | _ => exact passes_scalar hw

theorem passValue_complete {t : Tree} (hb : Blank b) (hw : Written depth t w) (hr : EndsValue r)
    (hc : c.rest = b ++ (w ++ r)) : ∃ p, passValue c = .ok ⟨r, p⟩ := by
  obtain ⟨n, hn, pass⟩ := hw.passes
  have room : c.rest.length + 1 = n + (c.rest.length + 1 - n) := by
    simp only [hc, List.length_append]
    omega
  obtain ⟨p, hp⟩ := pass [] (c.rest.length + 1 - n) hb hr hc
  exact ⟨p, by rw [passValue, room, hp]; rfl⟩

end SchemaBoard.Json
