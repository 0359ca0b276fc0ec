import Mathlib.Data.List.TakeWhile
import SchemaBoard.Proofs.Json.Grammar

/-!
# Numbers are read as they are written

The readers of numbers take exactly the literals: what is read is the number of a well-formed
literal in front of the text, and a literal in front of a text that does not carry it on is read.
Main statements: `readNumber_sound`, `readNumber_complete`, and `number?_eq_natural_iff`: an exact
count is read from digits alone.
-/
namespace SchemaBoard.Json

open Decimal Literal

variable {negative : Bool} {n : Nat} {e : Int} {c c' : Cursor} {x : Number} {r : List Char}

/-! ## Digits -/

def NoDigit (r : List Char) : Prop := ∀ d ∈ r.head?, d.isDigit = false

theorem takeWhile_exact {α : Type} {p : α → Bool} {xs r : List α} (hx : ∀ x ∈ xs, p x = true)
    (hr : ∀ x ∈ r.head?, p x = false) : (xs ++ r).takeWhile p = xs := by
  rw [List.takeWhile_append_of_pos hx]
  cases r with
  | nil => simp
  | cons y r => simp [hr y rfl]

theorem leadingDigits_append {ds : List Char} (hc : c.rest = ds ++ r) (hd : IsDigits ds)
    (hr : NoDigit r) : leadingDigits c = ds := by
  rw [leadingDigits, hc]
  exact takeWhile_exact hd.2 hr

theorem leadingDigits_append_rest (c : Cursor) :
    leadingDigits c ++ (c.advance (leadingDigits c).length).rest = c.rest :=
  List.prefix_iff_eq_append.1 (List.takeWhile_prefix _)

theorem isDigits_leadingDigits (h : leadingDigits c ≠ []) : IsDigits (leadingDigits c) :=
  ⟨h, fun _ hd => List.mem_takeWhile_imp hd⟩

theorem startsWith_cons {p : Char → Bool} {d : Char} (hc : c.rest = d :: r) :
    startsWith p c = p d := by
  simp [startsWith, hc]

theorem exists_cons_of_startsWith {p : Char → Bool} (h : startsWith p c = true) :
    ∃ d r, c.rest = d :: r ∧ p d = true := by
  cases hc : c.rest with
  | nil => simp [startsWith, hc] at h
  | cons d r => exact ⟨d, r, rfl, by rwa [startsWith_cons hc] at h⟩

/-! ## Numbers of gathered digits -/

theorem toReal_ok_iff :
    toReal negative n e c = .ok (x, c') ↔ real? negative n e = some x ∧ c = c' := by
  unfold toReal real?
  cases Binary64.ofDecimal negative n e <;> simp

theorem toWhole_ok_iff :
    toWhole negative n c = .ok (x, c') ↔ Literal.whole? negative n = some x ∧ c = c' := by
  unfold toWhole Literal.whole?
  split
  · simp
  split
  · exact toReal_ok_iff
  · simp

/-! ## Powers of ten -/

theorem exists_sign (c : Cursor) : ∃ s : Option Char, (s = none ∨ s = some '+' ∨ s = some '-') ∧
    startsWith (· = '-') c = decide (s = some '-') ∧
    s.toList ++ (if startsWith (fun d => d = '+' || d = '-') c then c.advance 1 else c).rest
      = c.rest := by
  cases hc : c.rest with
  | nil => exact ⟨none, .inl rfl, by simp [startsWith, hc], by simp [startsWith, hc]⟩
  | cons d r =>
    by_cases hs : d = '+' ∨ d = '-'
    · refine ⟨some d, by simpa using hs, by simp [startsWith, hc], ?_⟩
      have signed : startsWith (fun d => d = '+' || d = '-') c = true := by
        rw [startsWith_cons hc]
        simpa using hs
      simp [signed, Cursor.advance, hc]
    · obtain ⟨hp, hn⟩ := not_or.1 hs
      exact ⟨none, .inl rfl, by simp [startsWith, hc, hn], by simp [startsWith, hc, hp, hn]⟩

/-- The number of a power whose digits have been read. -/
theorem endPower_ok_iff {p : Power} {fault : Fault} :
    (if (gather greatestExponent 0 p.digits).2 < p.digits.length then
        if n ≠ 0 && !decide (p.sign = some '-') then .error fault else toReal negative 0 0 c
      else toReal negative n
        (if decide (p.sign = some '-') then e - (gather greatestExponent 0 p.digits).1
          else e + (gather greatestExponent 0 p.digits).1) c) = .ok (x, c')
      ↔ p.number? negative n e = some x ∧ c = c' := by
  simp only [Power.number?]
  split
  · split
    · simp only [reduceCtorEq, false_and]
    · exact toReal_ok_iff
  · exact toReal_ok_iff

theorem readExponent_sound (hm : startsWith isExponentMark c = true)
    (h : readExponent negative n e c = .ok (x, c')) :
    ∃ p : Power, p.IsValid ∧ p.number? negative n e = some x ∧ p.write ++ c'.rest = c.rest := by
  obtain ⟨m, r, hc, hm⟩ := exists_cons_of_startsWith hm
  obtain ⟨s, hs, lower, behind⟩ := exists_sign (c.advance 1)
  have mark : (c.advance 1).rest = r := by simp [Cursor.advance, hc]
  rw [readExponent] at h
  rw [mark] at behind
  simp only [lower] at h
  generalize (if startsWith (fun d => d = '+' || d = '-') (c.advance 1) then (c.advance 1).advance 1
    else c.advance 1) = a at h behind
  split at h
  · cases h
  split at h
  · cases h
  rename_i hd
  have digits := isDigits_leadingDigits (c := a) (by simpa using hd)
  obtain ⟨hx, rfl⟩ := (@endPower_ok_iff negative n e _ c' x ⟨m, s, leadingDigits a⟩ _).1 h
  refine ⟨⟨m, s, leadingDigits a⟩, ⟨hm, hs, digits⟩, hx, ?_⟩
  rw [hc, Power.write, List.cons_append, List.append_assoc, leadingDigits_append_rest, behind]

theorem IsDigits.exists_cons {ds : List Char} (h : IsDigits ds) :
    ∃ d more, ds = d :: more ∧ d.isDigit = true := by
  obtain ⟨d, more, rfl⟩ := List.exists_cons_of_ne_nil h.1
  exact ⟨d, more, rfl, h.2 d List.mem_cons_self⟩

theorem ne_of_isDigit {d e : Char} (hd : d.isDigit = true) (he : e.isDigit = false) : d ≠ e := by
  rintro rfl
  simp [hd] at he

theorem sign_append {s : Option Char} {ds : List Char} (hd : IsDigits ds)
    (hs : s = none ∨ s = some '+' ∨ s = some '-') (hc : c.rest = s.toList ++ (ds ++ r)) :
    startsWith (· = '-') c = decide (s = some '-') ∧
    (if startsWith (fun d => d = '+' || d = '-') c then c.advance 1 else c).rest = ds ++ r := by
  obtain ⟨d, more, rfl, digit⟩ := hd.exists_cons
  have plus : d ≠ '+' := ne_of_isDigit digit (by decide)
  have minus : d ≠ '-' := ne_of_isDigit digit (by decide)
  rcases hs with rfl | rfl | rfl <;> simp [startsWith, hc, Cursor.advance, plus, minus]

/-- Behind its digits a cursor is at what follows them. -/
theorem exists_advance {ds : List Char} (hc : c.rest = ds ++ r) :
    ∃ q, c.advance ds.length = ⟨r, q⟩ :=
  ⟨(c.advance ds.length).position, by simp [Cursor.advance, hc]⟩

theorem readExponent_complete {p : Power} (hp : p.IsValid) (hx : p.number? negative n e = some x)
    (hr : NoDigit r) (hc : c.rest = p.write ++ r) :
    ∃ q, readExponent negative n e c = .ok (x, ⟨r, q⟩) := by
  have mark : (c.advance 1).rest = p.sign.toList ++ (p.digits ++ r) := by
    simp [Cursor.advance, hc, Power.write]
  obtain ⟨lower, behind⟩ := sign_append hp.digits hp.sign mark
  rw [readExponent]
  simp only [lower]
  generalize (if startsWith (fun d => d = '+' || d = '-') (c.advance 1) then (c.advance 1).advance 1
    else c.advance 1) = a at behind ⊢
  obtain ⟨q, hq⟩ := exists_advance behind
  have digits := leadingDigits_append behind hp.digits hr
  have inside : a.rest.isEmpty = false := by simp [behind, hp.digits.1]
  have some : p.digits.isEmpty = false := by simp [hp.digits.1]
  simp only [inside, digits, some, Bool.false_eq_true, if_false]
  exact ⟨q, endPower_ok_iff.2 ⟨hx, hq⟩⟩

/-! ## Fractions -/

section

variable {ws : List Char}

theorem readFraction_sound (hp : startsWith (· = '.') c = true)
    (h : readFraction negative (gather greatestNatural 0 ws).1
      (ws.length - (gather greatestNatural 0 ws).2 : Nat) c = .ok (x, c')) :
    ∃ ds power, IsDigits ds ∧ (∀ p ∈ power, Power.IsValid p) ∧
      Literal.number? ⟨negative, ws, some ds, power⟩ = some x ∧
      behindWhole (some ds) power ++ c'.rest = c.rest := by
  obtain ⟨d, r, hc, hp⟩ := exists_cons_of_startsWith hp
  have point : c.rest = '.' :: (c.advance 1).rest := by
    simpa [Cursor.advance, hc] using hp
  rw [readFraction] at h
  generalize c.advance 1 = a at h point
  simp only at h
  split at h
  · cases h
  rename_i hd
  have digits := isDigits_leadingDigits (c := a) (by simpa using hd)
  have whole := leadingDigits_append_rest a
  split at h
  · rename_i hm
    obtain ⟨p, hp, hx, behind⟩ := readExponent_sound hm h
    refine ⟨leadingDigits a, some p, digits, by simpa using hp, hx, ?_⟩
    simp [behindWhole, point, behind, whole]
  · obtain ⟨hx, rfl⟩ := toReal_ok_iff.1 h
    have number : Literal.number? ⟨negative, ws, some (leadingDigits a), none⟩ = some x := by
      simpa [Literal.number?, Literal.significand] using hx
    refine ⟨leadingDigits a, none, digits, by simp, number, ?_⟩
    simp [behindWhole, point, whole]

/-- What may follow a number: nothing that carries it on. -/
def EndsNumber (r : List Char) : Prop :=
  ∀ d ∈ r.head?, d.isDigit = false ∧ d ≠ '.' ∧ isExponentMark d = false

theorem EndsNumber.noDigit (h : EndsNumber r) : NoDigit r := fun d hd => (h d hd).1

theorem startsWith_eq_false {p : Char → Bool} (h : ∀ d ∈ c.rest.head?, p d = false) :
    startsWith p c = false := by
  cases hc : c.rest with
  | nil => simp [startsWith, hc]
  | cons d r => rw [startsWith_cons hc, h d (by simp [hc])]

theorem isDigit_of_mark {m : Char} (h : isExponentMark m = true) : m.isDigit = false := by
  have hm : m = 'e' ∨ m = 'E' := by simpa [isExponentMark] using h
  rcases hm with rfl | rfl <;> decide

theorem noDigit_power {power : Option Power} (hp : ∀ p ∈ power, p.IsValid) (hr : NoDigit r) :
    NoDigit (power.elim [] Power.write ++ r) := by
  cases power with
  | none => exact hr
  | some p =>
    intro d hd
    obtain rfl : p.mark = d := by simpa [Power.write] using hd
    exact isDigit_of_mark (hp p rfl).mark

theorem readFraction_complete {ds : List Char} {power : Option Power} (hd : IsDigits ds)
    (hp : ∀ p ∈ power, p.IsValid) (hx : Literal.number? ⟨negative, ws, some ds, power⟩ = some x)
    (hr : EndsNumber r) (hc : c.rest = behindWhole (some ds) power ++ r) :
    ∃ q, readFraction negative (gather greatestNatural 0 ws).1
      (ws.length - (gather greatestNatural 0 ws).2 : Nat) c = .ok (x, ⟨r, q⟩) := by
  have point : (c.advance 1).rest = ds ++ (power.elim [] Power.write ++ r) := by
    simp [Cursor.advance, hc, behindWhole]
  rw [readFraction]
  generalize c.advance 1 = a at point ⊢
  have digits := leadingDigits_append point hd (noDigit_power hp hr.noDigit)
  have some : ds.isEmpty = false := by simp [hd.1]
  obtain ⟨q, hq⟩ := exists_advance point
  simp only [digits, some, hq, Bool.false_eq_true, if_false]
  cases power with
  | none =>
    have ends : startsWith isExponentMark ⟨r, q⟩ = false :=
      startsWith_eq_false fun d hd => (hr d hd).2.2
    refine ⟨q, ?_⟩
    simp only [Option.elim_none, List.nil_append, ends, Bool.false_eq_true, if_false]
    exact toReal_ok_iff.2 ⟨by simpa [Literal.number?, Literal.significand] using hx, rfl⟩
  | some p =>
    have mark : startsWith isExponentMark ⟨p.write ++ r, q⟩ = true := by
      simp [startsWith, Power.write, (hp p rfl).mark]
    simp only [Option.elim_some, mark, if_true]
    exact readExponent_complete (hp p rfl) hx hr.noDigit rfl

/-! ## Whole numbers and literals -/

theorem number?_whole (negative : Bool) (ws : List Char) :
    number? ⟨negative, ws, none, none⟩
      = if (gather greatestNatural 0 ws).2 < ws.length then
          real? negative (gather greatestNatural 0 ws).1
            (ws.length - (gather greatestNatural 0 ws).2 : Nat)
        else whole? negative (gather greatestNatural 0 ws).1 := by
  have room : ((ws.length - (gather greatestNatural 0 ws).2 : Nat) : Int) ≠ 0
      ↔ (gather greatestNatural 0 ws).2 < ws.length := by omega
  simp [number?, significand, room]

/-- Digits with nothing behind them that carries them on. -/
theorem endWhole_ok_iff :
    (if (gather greatestNatural 0 ws).2 < ws.length then
        toReal negative (gather greatestNatural 0 ws).1
          (ws.length - (gather greatestNatural 0 ws).2 : Nat) c
      else toWhole negative (gather greatestNatural 0 ws).1 c) = .ok (x, c')
      ↔ number? ⟨negative, ws, none, none⟩ = some x ∧ c = c' := by
  rw [number?_whole]
  split
  · exact toReal_ok_iff
  · exact toWhole_ok_iff

/-- A number from behind its leading digits. -/
def readBehind (negative : Bool) (ws : List Char) (c : Cursor) : Except Fault (Number × Cursor) :=
  let n := (gather greatestNatural 0 ws).1
  let k := (gather greatestNatural 0 ws).2
  if startsWith (· = '.') c then readFraction negative n (ws.length - k : Nat) c
  else if startsWith isExponentMark c then readExponent negative n (ws.length - k : Nat) c
  else if k < ws.length then toReal negative n (ws.length - k : Nat) c
  else toWhole negative n c

theorem readNumber_ok_iff :
    readNumber negative c = .ok (x, c') ↔ leadingDigits c ≠ [] ∧
      ((leadingDigits c).head? = some '0' → leadingDigits c = ['0']) ∧
      readBehind negative (leadingDigits c) (c.advance (leadingDigits c).length)
        = .ok (x, c') := by
  rw [readNumber]
  cases leadingDigits c with
  | nil => simp
  | cons d more =>
    by_cases lead : d = '0' → more = []
    · have one : ¬(d = '0' && !more.isEmpty) = true := by simpa using lead
      simp only [if_neg one, readBehind]
      simpa using fun _ hd => ⟨hd, lead hd⟩
    · have padded : (d = '0' && !more.isEmpty) = true := by simpa using lead
      simp only [if_pos padded]
      simpa using fun h => absurd (fun hd => (h hd).2) lead

theorem readBehind_sound (h : readBehind negative ws c = .ok (x, c')) :
    ∃ fraction power, (∀ ds ∈ fraction, IsDigits ds) ∧ (∀ p ∈ power, Power.IsValid p) ∧
      number? ⟨negative, ws, fraction, power⟩ = some x ∧
      behindWhole fraction power ++ c'.rest = c.rest := by
  rw [readBehind] at h
  split at h
  · rename_i point
    obtain ⟨ds, power, hd, hp, hx, behind⟩ := readFraction_sound point h
    exact ⟨some ds, power, by simpa using hd, hp, hx, behind⟩
  split at h
  · rename_i mark
    obtain ⟨p, hp, hx, behind⟩ := readExponent_sound mark h
    exact ⟨none, some p, by simp, by simpa using hp, hx, by simpa [behindWhole] using behind⟩
  obtain ⟨hx, rfl⟩ := endWhole_ok_iff.1 h
  exact ⟨none, none, by simp, by simp, hx, by simp [behindWhole]⟩

theorem readNumber_sound (h : readNumber negative c = .ok (x, c')) :
    ∃ l : Literal, l.negative = negative ∧ l.IsValid ∧ l.number? = some x ∧
      l.magnitude ++ c'.rest = c.rest := by
  obtain ⟨some, lead, h⟩ := readNumber_ok_iff.1 h
  obtain ⟨fraction, power, hf, hp, hx, behind⟩ := readBehind_sound h
  refine ⟨⟨negative, leadingDigits c, fraction, power⟩, rfl,
    ⟨isDigits_leadingDigits some, lead, hf, hp⟩, hx, ?_⟩
  rw [magnitude, List.append_assoc, behind, leadingDigits_append_rest]

theorem Power.IsValid.mark_ne_point {p : Power} (h : p.IsValid) : p.mark ≠ '.' := by
  intro point
  have := h.mark
  simp [point, isExponentMark] at this

theorem readBehind_complete {fraction : Option (List Char)} {power : Option Power}
    (hf : ∀ ds ∈ fraction, IsDigits ds) (hp : ∀ p ∈ power, p.IsValid)
    (hx : number? ⟨negative, ws, fraction, power⟩ = some x) (hr : EndsNumber r)
    (hc : c.rest = behindWhole fraction power ++ r) :
    ∃ q, readBehind negative ws c = .ok (x, ⟨r, q⟩) := by
  rw [readBehind]
  cases fraction with
  | some ds =>
    have point : startsWith (· = '.') c = true := by simp [startsWith, hc, behindWhole]
    rw [if_pos point]
    exact readFraction_complete (hf ds rfl) hp hx hr hc
  | none =>
    cases power with
    | some p =>
      have hp := hp p rfl
      have point : ¬startsWith (· = '.') c = true := by
        simp [startsWith, hc, behindWhole, Power.write, hp.mark_ne_point]
      have mark : startsWith isExponentMark c = true := by
        simp [startsWith, hc, behindWhole, Power.write, hp.mark]
      rw [if_neg point, if_pos mark]
      exact readExponent_complete hp hx hr.noDigit hc
    | none =>
      obtain rfl : c.rest = r := hc
      have point : startsWith (· = '.') c = false :=
        startsWith_eq_false fun d hd => by simpa using (hr d hd).2.1
      have mark : startsWith isExponentMark c = false :=
        startsWith_eq_false fun d hd => (hr d hd).2.2
      rw [point, mark]
      exact ⟨c.position, endWhole_ok_iff.2 ⟨hx, rfl⟩⟩

theorem noDigit_behindWhole {fraction : Option (List Char)} {power : Option Power}
    (hp : ∀ p ∈ power, p.IsValid) (hr : NoDigit r) :
    NoDigit (behindWhole fraction power ++ r) := by
  cases fraction with
  | none => exact noDigit_power hp hr
  | some ds =>
    intro d hd
    obtain rfl : '.' = d := by simpa [behindWhole] using hd
    decide

theorem readNumber_complete {l : Literal} (hl : l.IsValid) (hx : l.number? = some x)
    (hr : EndsNumber r) (hc : c.rest = l.magnitude ++ r) :
    ∃ q, readNumber l.negative c = .ok (x, ⟨r, q⟩) := by
  obtain ⟨negative, ws, fraction, power⟩ := l
  have whole : c.rest = ws ++ (behindWhole fraction power ++ r) := by
    rw [hc, magnitude, List.append_assoc]
  have digits := leadingDigits_append whole hl.whole (noDigit_behindWhole hl.power hr.noDigit)
  obtain ⟨p, hp⟩ := exists_advance whole
  obtain ⟨q, hq⟩ := @readBehind_complete negative ⟨_, p⟩ x r ws _ _ hl.fraction hl.power hx hr rfl
  refine ⟨q, readNumber_ok_iff.2 ?_⟩
  rw [digits, hp]
  exact ⟨hl.whole.1, hl.lead, hq⟩

end

/-! ## Exact counts -/

theorem le_decimal (n : Nat) (ds : List Char) : n ≤ decimal n ds := by
  induction ds generalizing n with
  | nil => simp [decimal]
  | cons d ds ih =>
    have := ih (n * 10 + digitValue d)
    simp only [decimal, List.foldl_cons] at this ⊢
    omega

theorem gather_of_le {limit n : Nat} {ds : List Char} (h : decimal n ds ≤ limit) :
    gather limit n ds = (decimal n ds, ds.length) := by
  induction ds generalizing n with
  | nil => rfl
  | cons d ds ih =>
    have first : n * 10 + digitValue d ≤ limit := (le_decimal _ ds).trans h
    simp only [gather, if_pos first, @ih (n * 10 + digitValue d) h]
    rfl

theorem gather_lt {limit n : Nat} {ds : List Char} (hn : n ≤ limit) (h : limit < decimal n ds) :
    (gather limit n ds).2 < ds.length := by
  induction ds generalizing n with
  | nil => exact absurd h (by simpa [decimal] using hn)
  | cons d ds ih =>
    simp only [gather, List.length_cons]
    split
    · rename_i first
      exact Nat.succ_lt_succ (ih first h)
    · exact Nat.zero_lt_succ _

theorem real?_ne_natural (negative : Bool) (n : Nat) (e : Int) (m : UInt64) :
    real? negative n e ≠ some (.natural m) := by
  simp [real?]

theorem power_ne_natural (negative : Bool) (n : Nat) (e : Int) (p : Power) (m : UInt64) :
    p.number? negative n e ≠ some (.natural m) := by
  simp only [Power.number?]
  split
  · split
    · exact nofun
    · exact real?_ne_natural _ _ _ _
  · exact real?_ne_natural _ _ _ _

theorem whole?_eq_natural_iff {m : UInt64} :
    whole? negative n = some (.natural m) ↔ negative = false ∧ UInt64.ofNat n = m := by
  cases negative with
  | false => simp [whole?]
  | true =>
    simp only [whole?, Bool.not_true, Bool.false_eq_true, if_false]
    split <;> simp [real?_ne_natural]

/-- Just the digits of a number of 64 bits are read as an exact count. -/
theorem number?_eq_natural_iff (l : Literal) (m : UInt64) :
    l.number? = some (.natural m) ↔ l.IsUnsigned m.toNat := by
  obtain ⟨negative, ws, fraction, power⟩ := l
  constructor
  · intro h
    cases power with
    | some p => exact absurd h (power_ne_natural _ _ _ p m)
    | none =>
    cases fraction with
    | some ds => exact absurd (by simpa [number?] using h) (real?_ne_natural _ _ _ m)
    | none =>
      rw [number?_whole] at h
      split at h <;> rename_i room
      · exact absurd h (real?_ne_natural _ _ _ m)
      obtain ⟨positive, hm⟩ := whole?_eq_natural_iff.1 h
      have fits : decimal 0 ws ≤ greatestNatural := by
        by_contra tooGreat
        exact room (gather_lt (Nat.zero_le _) (not_le.1 tooGreat))
      rw [gather_of_le fits] at hm
      refine ⟨positive, rfl, rfl, ?_⟩
      rw [← hm, UInt64.toNat_ofNat_of_lt' (Nat.lt_of_le_of_lt fits (by decide))]
  · rintro ⟨rfl, rfl, rfl, h⟩
    have fits : decimal 0 ws ≤ greatestNatural := by
      have := m.toNat_lt
      simp only [h, greatestNatural]
      omega
    rw [number?_whole, gather_of_le fits, if_neg (Nat.lt_irrefl _)]
    exact whole?_eq_natural_iff.2 ⟨rfl, by simp [h]⟩

end SchemaBoard.Json
