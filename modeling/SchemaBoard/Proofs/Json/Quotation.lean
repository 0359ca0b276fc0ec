import SchemaBoard.Proofs.Json.Grammar
import SchemaBoard.Proofs.Success

/-!
# Strings are read as they are spelled

The readers of strings take exactly the spellings of the grammar, from behind the opening quote.
Main statements: `readQuotation_sound`, `readQuotation_complete`.
-/
namespace SchemaBoard.Json

variable {c c' : Cursor} {r : List Char}

/-! ## Escapes -/

theorem readHex_sound {n : Nat} (h : readHex c = .ok (n, c')) :
    ∃ x y z w, hexNumber? x y z w = some n ∧ c.rest = x :: y :: z :: w :: c'.rest := by
  simp only [readHex] at h
  split at h
  · rename_i m hm
    split at hm
    · rename_i x y z w r hc
      obtain ⟨rfl, rfl⟩ := Prod.mk.inj (Except.ok.inj h)
      exact ⟨x, y, z, w, hm, by simp [Cursor.advance, hc]⟩
    · cases hm
  · split at h <;> cases h

theorem readHex_complete {x y z w : Char} {n : Nat} (hn : hexNumber? x y z w = some n)
    (hc : c.rest = x :: y :: z :: w :: r) : ∃ p, readHex c = .ok (n, ⟨r, p⟩) :=
  ⟨(c.advance 4).position, by simp [readHex, hc, hn, Cursor.advance]⟩

theorem expectPart_sound {d : Char} (h : expectPart d c = .ok c') : c.rest = d :: c'.rest := by
  rw [expectPart] at h
  split at h
  · cases h
  rename_i e r hc
  split at h
  · rename_i he
    obtain rfl := Except.ok.inj h
    simp [Cursor.advance, hc, he]
  · cases h

theorem expectPart_complete {d : Char} (hc : c.rest = d :: r) :
    ∃ p, expectPart d c = .ok ⟨r, p⟩ :=
  ⟨(c.advance 1).position, by simp [expectPart, hc, Cursor.advance]⟩

theorem readCodePoint_sound {e : Char} (h : readCodePoint c = .ok (e, c')) :
    ∃ q, Spelling e ('\\' :: 'u' :: q) ∧ c.rest = q ++ c'.rest := by
  rw [readCodePoint] at h
  obtain ⟨⟨n, c₁⟩, hn, h⟩ := exists_of_bind_ok h
  obtain ⟨x, y, z, w, hn, hc⟩ := readHex_sound hn
  simp only at h
  split at h
  · cases h
  rename_i trailing
  split at h
  · rename_i leading
    obtain ⟨c₂, h₁, h⟩ := exists_of_bind_ok h
    obtain ⟨c₃, h₂, h⟩ := exists_of_bind_ok h
    obtain ⟨⟨m, c₄⟩, hm, h⟩ := exists_of_bind_ok h
    obtain ⟨x', y', z', w', hm, hc₄⟩ := readHex_sound hm
    simp only at h
    split at h
    · rename_i second
      obtain ⟨rfl, rfl⟩ := Prod.mk.inj (Except.ok.inj h)
      refine ⟨_, .pair hn hm leading second, ?_⟩
      simp [hc, expectPart_sound h₁, expectPart_sound h₂, hc₄]
    · cases h
  · rename_i leading
    obtain ⟨rfl, rfl⟩ := Prod.mk.inj (Except.ok.inj h)
    exact ⟨_, .unit hn (by simpa using leading) (by simpa using trailing), hc⟩

theorem readEscape_sound {e : Char} (h : readEscape c = .ok (e, c')) :
    ∃ q, Spelling e ('\\' :: q) ∧ c.rest = q ++ c'.rest := by
  rw [readEscape] at h
  split at h
  · cases h
  rename_i d r hc
  split at h
  · rename_i he
    obtain ⟨rfl, rfl⟩ := Prod.mk.inj (Except.ok.inj h)
    exact ⟨[d], .short he, by simp [Cursor.advance, hc]⟩
  split at h
  · rename_i hd
    obtain ⟨q, hq, hr⟩ := readCodePoint_sound h
    have behind : (c.advance 1).rest = r := by simp [Cursor.advance, hc]
    exact ⟨'u' :: q, hq, by rw [hc, hd, ← behind, hr, List.cons_append]⟩
  · cases h

theorem readEscape_eq_readCodePoint (hc : c.rest = 'u' :: r) :
    readEscape c = readCodePoint (c.advance 1) := by
  simp [readEscape, hc, shortEscape?]

theorem readEscape_complete {e : Char} {q : List Char} (hq : Spelling e ('\\' :: q))
    (hc : c.rest = q ++ r) : ∃ p, readEscape c = .ok (e, ⟨r, p⟩) := by
  generalize hw : '\\' :: q = w at hq
  cases hq with
  | plain _ _ hb =>
    cases hw
    exact absurd rfl hb
  | @short c d he =>
    cases hw
    exact ⟨(c.advance 1).position, by simp [readEscape, hc, he, Cursor.advance]⟩
  | unit hn leading trailing =>
    cases hw
    obtain ⟨p, first⟩ := readHex_complete (c := c.advance 1) (r := r) hn
      (by simp [Cursor.advance, hc])
    refine ⟨p, ?_⟩
    rw [readEscape_eq_readCodePoint hc, readCodePoint, first]
    simp [bind, Except.bind, pure, Except.pure, leading, trailing]
  | @pair x y z w x' y' z' w' n m hn hm leading second =>
    cases hw
    have trailing : isTrailing n = false := by
      simp only [isLeading, isTrailing, Bool.and_eq_true, decide_eq_true_eq] at leading ⊢
      simp
      omega
    obtain ⟨p₁, first⟩ := readHex_complete (c := c.advance 1)
      (r := '\\' :: 'u' :: x' :: y' :: z' :: w' :: r) hn (by simp [Cursor.advance, hc])
    obtain ⟨p₂, slash⟩ := expectPart_complete
      (c := ⟨'\\' :: 'u' :: x' :: y' :: z' :: w' :: r, p₁⟩) rfl
    obtain ⟨p₃, letter⟩ := expectPart_complete
      (c := ⟨'u' :: x' :: y' :: z' :: w' :: r, p₂⟩) rfl
    obtain ⟨p, last⟩ := readHex_complete (c := ⟨x' :: y' :: z' :: w' :: r, p₃⟩) hm rfl
    refine ⟨p, ?_⟩
    rw [readEscape_eq_readCodePoint hc, readCodePoint, first]
    simp [bind, Except.bind, pure, Except.pure, leading, trailing, slash, letter, last, second]

/-! ## Strings -/

theorem readChars_sound {fuel : Nat} {found : List Char} {s : String}
    (h : readChars fuel found c = .ok (s, c')) :
    ∃ cs q, Spelled cs q ∧ s = String.ofList (found.reverse ++ cs) ∧
      c.rest = q ++ '\x22' :: c'.rest := by
  induction fuel generalizing found c with
  | zero => cases h
  | succ fuel ih =>
    rw [readChars] at h
    split at h
    · cases h
    rename_i d r hc
    split at h
    · rename_i hd
      obtain ⟨rfl, rfl⟩ := Prod.mk.inj (Except.ok.inj h)
      exact ⟨[], [], .nil, by simp, by simp [Cursor.advance, hc, hd]⟩
    rename_i quote
    split at h
    · rename_i hd
      obtain ⟨⟨e, a⟩, he, h⟩ := exists_of_bind_ok h
      obtain ⟨q, hq, ha⟩ := readEscape_sound he
      obtain ⟨cs, w, hw, hs, hr⟩ := ih h
      have behind : (c.advance 1).rest = r := by simp [Cursor.advance, hc]
      refine ⟨e :: cs, '\\' :: q ++ w, .cons hq hw, by simp [hs], ?_⟩
      rw [hc, hd, ← behind, ha, hr]
      simp
    rename_i slash
    split at h
    · cases h
    rename_i control
    obtain ⟨cs, w, hw, hs, hr⟩ := ih h
    refine ⟨d :: cs, [d] ++ w, .cons (.plain (by omega) quote slash) hw, by simp [hs], ?_⟩
    rw [hc, show r = _ from hr]
    simp

theorem Spelling.cases_escape {e : Char} {w : List Char} (h : Spelling e w) :
    (w = [e] ∧ 32 ≤ e.toNat ∧ e ≠ '\x22' ∧ e ≠ '\\') ∨ ∃ q, w = '\\' :: q := by
  cases h with
  | plain hn hq hb => exact .inl ⟨rfl, hn, hq, hb⟩
  | short _ => exact .inr ⟨_, rfl⟩
  | unit _ _ _ => exact .inr ⟨_, rfl⟩
  | pair _ _ _ _ => exact .inr ⟨_, rfl⟩

theorem readChars_complete {fuel : Nat} {found cs q : List Char} (hq : Spelled cs q)
    (fits : cs.length < fuel) (hc : c.rest = q ++ '\x22' :: r) :
    ∃ p, readChars fuel found c = .ok (String.ofList (found.reverse ++ cs), ⟨r, p⟩) := by
  induction hq generalizing fuel found c with
  | nil =>
    obtain ⟨fuel, rfl⟩ := Nat.exists_eq_succ_of_ne_zero (Nat.ne_of_gt fits)
    exact ⟨(c.advance 1).position, by simp [readChars, hc, Cursor.advance]⟩
  | @cons e cs w q he _ ih =>
    obtain ⟨fuel, rfl⟩ := Nat.exists_eq_succ_of_ne_zero (Nat.ne_zero_of_lt fits)
    have fits : cs.length < fuel := Nat.lt_of_succ_lt_succ fits
    rcases he.cases_escape with ⟨rfl, hn, quote, slash⟩ | ⟨v, rfl⟩
    · have plain : c.rest = e :: (q ++ '\x22' :: r) := by simpa using hc
      obtain ⟨p, hp⟩ := @ih ⟨q ++ '\x22' :: r, c.position.after e⟩ fuel (e :: found) fits rfl
      refine ⟨p, ?_⟩
      simpa [readChars, plain, quote, slash, Nat.not_lt.2 hn] using hp
    · have escape : c.rest = '\\' :: (v ++ (q ++ '\x22' :: r)) := by simpa using hc
      obtain ⟨p₁, first⟩ := readEscape_complete (c := c.advance 1)
        (r := q ++ '\x22' :: r) he (by simp [Cursor.advance, escape])
      obtain ⟨p, hp⟩ := @ih ⟨q ++ '\x22' :: r, p₁⟩ fuel (e :: found) fits rfl
      refine ⟨p, ?_⟩
      simpa [readChars, escape, first, bind, Except.bind] using hp

theorem Spelled.length_le {cs q : List Char} (h : Spelled cs q) : cs.length ≤ q.length := by
  induction h with
  | nil => exact Nat.le_refl _
  | @cons c cs w q he _ ih =>
    have some : 0 < w.length := by cases he <;> simp
    simp only [List.length_cons, List.length_append]
    omega

/-- From behind its opening quote a string is read to its closing one. -/
theorem readQuotation_sound {s : String} (h : readQuotation c = .ok (s, c')) :
    ∃ w, Quoted s ('\x22' :: w) ∧ c.rest = w ++ c'.rest := by
  obtain ⟨cs, q, hq, hs, hc⟩ := readChars_sound h
  refine ⟨q ++ ['\x22'], ⟨q, by simpa [hs] using hq, rfl⟩, by simp [hc]⟩

theorem readQuotation_complete {s : String} {w : List Char} (hw : Quoted s ('\x22' :: w))
    (hc : c.rest = w ++ r) : ∃ p, readQuotation c = .ok (s, ⟨r, p⟩) := by
  obtain ⟨q, hq, hw⟩ := hw
  obtain rfl := (List.cons.inj hw).2
  have fits : s.toList.length < c.rest.length + 1 := by
    have := hq.length_le
    simp [hc]
    omega
  obtain ⟨p, hp⟩ : ∃ p, readQuotation c = .ok (String.ofList ([].reverse ++ s.toList), ⟨r, p⟩) :=
    readChars_complete hq fits (by simpa using hc)
  exact ⟨p, by simpa using hp⟩

end SchemaBoard.Json
