import SchemaBoard.Proofs.Json.Parts
import SchemaBoard.Proofs.Json.Tree

/-!
# Texts are read as they are written

A value is read from a text if and only if the text writes a tree of that value. Main statement:
`parse_ok_iff`.
-/
namespace SchemaBoard.Json

variable {c c' : Cursor} {w r : List Char} {depth : Nat}

/-! ## Scalars -/

theorem readLiteral_sound {es : List Char} (h : readLiteral es c = .ok c') :
    c.rest = es ++ c'.rest := by
  induction es generalizing c with
  | nil =>
    obtain rfl := Except.ok.inj h
    rfl
  | cons e es ih =>
    rw [readLiteral] at h
    split at h
    · cases h
    rename_i d r hc
    split at h
    · rename_i hd
      have behind : (c.advance 1).rest = r := by simp [Cursor.advance, hc]
      rw [hc, hd, ← behind, ih h, List.cons_append]
    · cases h

theorem readLiteral_complete {es : List Char} (hc : c.rest = es ++ r) :
    ∃ p, readLiteral es c = .ok ⟨r, p⟩ := by
  induction es generalizing c with
  | nil => exact ⟨c.position, by rw [readLiteral, ← show c.rest = r from hc]⟩
  | cons e es ih =>
    obtain ⟨p, hp⟩ := @ih (c.advance 1) (by simp [Cursor.advance, hc])
    exact ⟨p, by simpa [readLiteral, hc] using hp⟩

theorem EndsValue.endsNumber (h : EndsValue r) : EndsNumber r := by
  intro d hd
  have cases : (((d = ' ' ∨ d = '\n') ∨ d = '\t') ∨ d = '\r') ∨ d = ',' ∨ d = ']' ∨ d = '\x7d' := by
    simpa [Cursor.isBlank] using h d hd
  rcases cases with (((rfl | rfl) | rfl) | rfl) | rfl | rfl | rfl <;> decide

/-- A number is read from behind its sign. -/
theorem number_sound {negative : Bool} {x : Number} (h : readNumber negative c = .ok (x, c')) :
    ∃ n : Numeral, n.negative = negative ∧ n.number = x ∧ c.rest = n.magnitude ++ c'.rest := by
  obtain ⟨l, hn, hl, hx, hr⟩ := readNumber_sound h
  exact ⟨⟨l, hl, by simp [hx]⟩, hn, by simp [Numeral.number, hx], hr.symm⟩

theorem number_complete (n : Numeral) (hr : EndsValue r) (hc : c.rest = n.magnitude ++ r) :
    ∃ p, readNumber n.negative c = .ok (n.number, ⟨r, p⟩) :=
  readNumber_complete n.valid (by simp [Numeral.number]) hr.endsNumber hc

/-- What is written by one word is read from behind its first character. -/
theorem word_sound {d : Char} {es : List Char} {u v : Value} (hc : c.rest = d :: r)
    (h : (readLiteral es (c.advance 1)).map (u, ·) = .ok (v, c')) :
    u = v ∧ c.rest = (d :: es) ++ c'.rest := by
  obtain ⟨a, ha, he⟩ := exists_of_map_ok h
  obtain ⟨rfl, rfl⟩ := Prod.mk.inj he
  have behind : (c.advance 1).rest = r := by simp [Cursor.advance, hc]
  exact ⟨rfl, by rw [hc, ← behind, readLiteral_sound ha, List.cons_append]⟩

theorem word_complete {β : Type} {d : Char} {es : List Char} (v : β)
    (hc : c.rest = (d :: es) ++ r) :
    ∃ p, (readLiteral es (c.advance 1)).map (v, ·) = .ok (v, ⟨r, p⟩) := by
  obtain ⟨p, hp⟩ := @readLiteral_complete (c.advance 1) r es (by simp [Cursor.advance, hc])
  exact ⟨p, by rw [hp]; rfl⟩

theorem readScalar_sound {v : Value} (h : readScalar c = .ok (v, c')) :
    ∃ t w, WrittenScalar t w ∧ t.value = v ∧ c.rest = w ++ c'.rest := by
  rw [readScalar] at h
  split at h
  · cases h
  rename_i d r hc
  have behind : (c.advance 1).rest = r := by simp [Cursor.advance, hc]
  split at h
  · rename_i hd
    obtain ⟨rfl, hr⟩ := word_sound hc h
    exact ⟨.null, _, rfl, rfl, by rw [hr, hd]; rfl⟩
  split at h
  · rename_i hd
    obtain ⟨rfl, hr⟩ := word_sound hc h
    exact ⟨.bool true, _, rfl, rfl, by rw [hr, hd]; rfl⟩
  split at h
  · rename_i hd
    obtain ⟨rfl, hr⟩ := word_sound hc h
    exact ⟨.bool false, _, rfl, rfl, by rw [hr, hd]; rfl⟩
  split at h
  · rename_i hd
    obtain ⟨⟨x, a⟩, hx, he⟩ := exists_of_map_ok h
    obtain ⟨rfl, rfl⟩ := Prod.mk.inj he
    obtain ⟨n, negative, rfl, hr⟩ := number_sound hx
    exact ⟨.number n, _, rfl, rfl, by simp [hc, hd, ← behind, hr, Literal.write, negative]⟩
  split at h
  · obtain ⟨⟨x, a⟩, hx, he⟩ := exists_of_map_ok h
    obtain ⟨rfl, rfl⟩ := Prod.mk.inj he
    obtain ⟨n, positive, rfl, hr⟩ := number_sound hx
    exact ⟨.number n, _, rfl, rfl, by simp [hr, Literal.write, positive]⟩
  split at h
  · rename_i hd
    obtain ⟨⟨s, a⟩, hs, he⟩ := exists_of_map_ok h
    obtain ⟨rfl, rfl⟩ := Prod.mk.inj he
    obtain ⟨w, hw, hr⟩ := readQuotation_sound hs
    exact ⟨.string s, _, hw, rfl, by rw [hc, hd, ← behind, hr, List.cons_append]⟩
  · cases h

theorem readScalar_number (n : Numeral) (hr : EndsValue r) (hc : c.rest = n.write ++ r) :
    ∃ p, readScalar c = .ok (.number n.number, ⟨r, p⟩) := by
  cases hn : n.negative with
  | true =>
    have behind : c.rest = '-' :: (n.magnitude ++ r) := by simpa [Literal.write, hn] using hc
    obtain ⟨p, hp⟩ := @number_complete (c.advance 1) r n hr (by simp [Cursor.advance, behind])
    rw [hn] at hp
    exact ⟨p, by simp [readScalar, behind, hp, Except.map]⟩
  | false =>
    obtain ⟨d, more, whole, digit⟩ := n.valid.whole.exists_cons
    have behind : c.rest = d :: (more ++ Literal.behindWhole n.fraction n.power ++ r) := by
      simp [hc, Literal.write, hn, Literal.magnitude, whole]
    have others : d ≠ 'n' ∧ d ≠ 't' ∧ d ≠ 'f' ∧ d ≠ '-' :=
      ⟨ne_of_isDigit digit (by decide), ne_of_isDigit digit (by decide),
        ne_of_isDigit digit (by decide), ne_of_isDigit digit (by decide)⟩
    obtain ⟨p, hp⟩ := number_complete n hr (by simpa [Literal.write, hn] using hc)
    rw [hn] at hp
    exact ⟨p, by simp [readScalar, behind, hp, others, digit, Except.map]⟩

theorem readScalar_complete {t : Tree} (hw : WrittenScalar t w) (hr : EndsValue r)
    (hc : c.rest = w ++ r) : ∃ p, readScalar c = .ok (t.value, ⟨r, p⟩) := by
  cases t with
  | null =>
    obtain rfl : w = _ := hw
    obtain ⟨p, hp⟩ := @word_complete c r _ 'n' "ull".toList Value.null hc
    exact ⟨p, by simpa [readScalar, hc] using hp⟩
  | bool b =>
    obtain rfl : w = _ := hw
    cases b with
    | true =>
      obtain ⟨p, hp⟩ := @word_complete c r _ 't' "rue".toList (Value.bool true) hc
      exact ⟨p, by simpa [readScalar, hc] using hp⟩
    | false =>
      obtain ⟨p, hp⟩ := @word_complete c r _ 'f' "alse".toList (Value.bool false) hc
      exact ⟨p, by simpa [readScalar, hc] using hp⟩
  | number n =>
    obtain rfl : w = n.write := hw
    exact readScalar_number n hr hc
  | string s =>
    obtain ⟨q, hq, rfl⟩ := hw
    have behind : (c.advance 1).rest = (q ++ ['\x22']) ++ r := by simp [Cursor.advance, hc]
    obtain ⟨p, hp⟩ := readQuotation_complete ⟨q, hq, rfl⟩ behind
    exact ⟨p, by simp [readScalar, hc, hp, Except.map]⟩
  | array ts => exact absurd hw id
  | object ms => exact absurd hw id

/-! ## Values -/

theorem WrittenScalar.written {t : Tree} (hw : WrittenScalar t w) : Written depth t w := by
  cases t with
  | array ts => exact absurd hw id
  | object ms => exact absurd hw id
  | _ => cases depth <;> exact hw

theorem written_zero_iff {t : Tree} : Written 0 t w ↔ WrittenScalar t w := by
  cases t <;> exact Iff.rfl

theorem WrittenScalar.exists_cons {t : Tree} (hw : WrittenScalar t w) :
    ∃ d r, w = d :: r ∧ Cursor.isBlank d = false ∧ d ≠ ']' ∧ d ≠ '[' ∧ d ≠ '\x7b' := by
  cases t with
  | null =>
    obtain rfl : w = _ := hw
    exact ⟨'n', _, rfl, by decide⟩
  | bool b =>
    obtain rfl : w = _ := hw
    cases b with
    | true => exact ⟨'t', _, rfl, by decide⟩
    | false => exact ⟨'f', _, rfl, by decide⟩
  | number n =>
    obtain rfl : w = n.write := hw
    obtain ⟨d, more, whole, digit⟩ := n.valid.whole.exists_cons
    have other {e : Char} (he : e.isDigit = false) : d ≠ e := ne_of_isDigit digit he
    cases hn : n.negative with
    | true => exact ⟨'-', n.magnitude, by simp [Literal.write, hn], by decide⟩
    | false =>
      refine ⟨d, more ++ Literal.behindWhole n.fraction n.power, ?_, ?_, other (by decide),
        other (by decide), other (by decide)⟩
      · simp [Literal.write, hn, Literal.magnitude, whole]
      · have blanks : ((d ≠ ' ' ∧ d ≠ '\n') ∧ d ≠ '\t') ∧ d ≠ '\r' :=
          ⟨⟨⟨other (by decide), other (by decide)⟩, other (by decide)⟩, other (by decide)⟩
        simpa [Cursor.isBlank] using blanks
  | string s =>
    obtain ⟨q, -, rfl⟩ := hw
    exact ⟨'\x22', _, rfl, by decide⟩
  | array ts => exact absurd hw id
  | object ms => exact absurd hw id

theorem WrittenScalar.opens {t : Tree} (hw : WrittenScalar t w) : Opens w := by
  obtain ⟨d, r, hd, blank, bracket, -⟩ := hw.exists_cons
  exact ⟨d, r, hd, blank, bracket⟩

theorem Written.opens {t : Tree} (hw : Written depth t w) : Opens w := by
  cases depth with
  | zero => exact (written_zero_iff.1 hw).opens
  | succ depth =>
    cases t with
    | array ts =>
      obtain ⟨q, b, -, -, rfl⟩ := hw
      exact ⟨'[', _, rfl, by decide⟩
    | object ms =>
      obtain ⟨q, b, -, -, rfl⟩ := hw
      exact ⟨'\x7b', _, rfl, by decide⟩
    | _ => exact WrittenScalar.opens hw

section

variable {α τ : Type} {f : τ → α} {part : τ → List Char → Prop} {image : α → List Char → Prop}

theorem parts_image_iff (h : ∀ a w, image a w ↔ ∃ t, part t w ∧ f t = a) {first : Bool}
    {as : List α} : Parts image first as w ↔ ∃ ts, Parts part first ts w ∧ ts.map f = as := by
  constructor
  · intro hw
    induction hw with
    | nil => exact ⟨[], .nil, rfl⟩
    | cons lead ha _ ih =>
      obtain ⟨t, ht, rfl⟩ := (h _ _).1 ha
      obtain ⟨ts, hts, rfl⟩ := ih
      exact ⟨t :: ts, .cons lead ht hts, rfl⟩
  · rintro ⟨ts, hts, rfl⟩
    induction hts with
    | nil => exact .nil
    | cons lead ht _ ih => exact .cons lead ((h _ _).2 ⟨_, ht, rfl⟩) ih

/-- A list of images is written as a list of what they are images of. -/
theorem enclosed_image_iff (h : ∀ a w, image a w ↔ ∃ t, part t w ∧ f t = a) {o e : Char}
    {as : List α} :
    Enclosed o e image as w ↔ ∃ ts, Enclosed o e part ts w ∧ ts.map f = as := by
  constructor
  · rintro ⟨q, b, hq, hb, rfl⟩
    obtain ⟨ts, hts, rfl⟩ := (parts_image_iff h).1 hq
    exact ⟨ts, ⟨q, b, hts, hb, rfl⟩, rfl⟩
  · rintro ⟨ts, ⟨q, b, hts, hb, rfl⟩, rfl⟩
    exact ⟨q, b, (parts_image_iff h).2 ⟨ts, hts, rfl⟩, hb, rfl⟩

/-- The members of an object whose values are images are those of an object of what they are images
of. -/
theorem memberText_image_iff (h : ∀ a w, image a w ↔ ∃ t, part t w ∧ f t = a) (m : String × α)
    (w : List Char) :
    MemberText image m w ↔ ∃ n, MemberText part n w ∧ (n.1, f n.2) = m := by
  constructor
  · rintro ⟨q, x, y, r, hq, hx, hy, hr, rfl⟩
    obtain ⟨t, ht, hv⟩ := (h _ _).1 hr
    exact ⟨(m.1, t), ⟨q, x, y, r, hq, hx, hy, ht, rfl⟩, by rw [hv]⟩
  · rintro ⟨n, ⟨q, x, y, r, hq, hx, hy, ht, rfl⟩, rfl⟩
    exact ⟨q, x, y, r, hq, hx, hy, (h _ _).2 ⟨n.2, ht, rfl⟩, rfl⟩

end

/-- A value is written by the texts of its trees. -/
def WrittenValue (depth : Nat) (v : Value) (w : List Char) : Prop :=
  ∃ t, Written depth t w ∧ t.value = v

theorem readValue_scalar {t : Tree} {b : List Char} (hb : Blank b) (hw : WrittenScalar t w)
    (hr : EndsValue r) (hc : c.rest = b ++ (w ++ r)) :
    ∃ p, readValue depth c = .ok (t.value, ⟨r, p⟩) := by
  obtain ⟨p, skip⟩ := exists_skip hb (hw.opens.append r).head hc
  obtain ⟨d, v, rfl, -, -, list, object⟩ := hw.exists_cons
  obtain ⟨p', hp⟩ := readScalar_complete (c := ⟨(d :: v) ++ r, p⟩) hw hr rfl
  refine ⟨p', ?_⟩
  cases depth <;> simpa [readValue, skip, startsWith, list, object] using hp

section

variable (ih : Reads (readValue depth) (WrittenValue depth))
include ih

theorem readValue_succ_sound {v : Value} (h : readValue (depth + 1) c = .ok (v, c')) :
    ∃ b w, Blank b ∧ WrittenValue (depth + 1) v w ∧ c.rest = b ++ (w ++ c'.rest) := by
  obtain ⟨b, hb, hc⟩ := exists_blank c
  rw [readValue] at h
  generalize c.skip = a at h hc
  split at h
  · rename_i opening
    obtain ⟨d, r, ha, hd⟩ := exists_cons_of_startsWith opening
    obtain rfl : d = '[' := by simpa using hd
    obtain ⟨⟨vs, e⟩, hvs, he⟩ := exists_of_map_ok h
    obtain ⟨rfl, rfl⟩ := Prod.mk.inj he
    obtain ⟨w, hw, hr⟩ := ih.readList_sound ha hvs
    obtain ⟨ts, hts, rfl⟩ := (enclosed_image_iff fun _ _ => Iff.rfl).1 hw
    exact ⟨b, w, hb, ⟨.array ts, hts, by simp [Tree.values_eq_map]⟩, by rw [hc, hr]⟩
  split at h
  · rename_i opening
    obtain ⟨d, r, ha, hd⟩ := exists_cons_of_startsWith opening
    obtain rfl : d = '\x7b' := by simpa using hd
    obtain ⟨⟨ms, e⟩, hms, he⟩ := exists_of_map_ok h
    obtain ⟨rfl, rfl⟩ := Prod.mk.inj he
    obtain ⟨ns, w, hw, rfl, hr⟩ := ih.readObject_sound ha hms
    obtain ⟨ts, hts, rfl⟩ := (enclosed_image_iff (memberText_image_iff fun _ _ => Iff.rfl)).1 hw
    exact ⟨b, w, hb, ⟨.object ts, hts, by simp [Tree.members_eq_map]⟩, by rw [hc, hr]⟩
  · obtain ⟨t, w, hw, hv, hr⟩ := readScalar_sound h
    exact ⟨b, w, hb, ⟨t, hw.written, hv⟩, by rw [hc, hr]⟩

theorem readValue_succ_complete {t : Tree} {b : List Char} (hb : Blank b)
    (hw : Written (depth + 1) t w) (hr : EndsValue r) (hc : c.rest = b ++ (w ++ r)) :
    ∃ p, readValue (depth + 1) c = .ok (t.value, ⟨r, p⟩) := by
  obtain ⟨p, skip⟩ := exists_skip hb (hw.opens.append r).head hc
  cases t with
  | array ts =>
    have list : Enclosed '[' ']' (WrittenValue depth) (ts.map Tree.value) w :=
      (enclosed_image_iff fun _ _ => Iff.rfl).2 ⟨ts, hw, rfl⟩
    obtain ⟨p', hp⟩ := ih.accepts.readList_complete list (c := ⟨w ++ r, p⟩) rfl
    obtain ⟨q, x, -, -, rfl⟩ := list
    refine ⟨p', ?_⟩
    simp only [readValue, skip]
    rw [if_pos (by simp [startsWith]), hp, Tree.value, Tree.values_eq_map]
    rfl
  | object ms =>
    have object : Enclosed '\x7b' '\x7d' (MemberText (WrittenValue depth))
        (ms.map fun m => (m.1, m.2.value)) w :=
      (enclosed_image_iff (memberText_image_iff fun _ _ => Iff.rfl)).2 ⟨ms, hw, rfl⟩
    obtain ⟨p', hp⟩ := ih.readObject_complete object (c := ⟨w ++ r, p⟩) rfl
    obtain ⟨q, x, -, -, rfl⟩ := object
    refine ⟨p', ?_⟩
    simp only [readValue, skip]
    rw [if_neg (by simp [startsWith]), if_pos (by simp [startsWith]), hp, Tree.value,
      Tree.members_eq_map]
    rfl
  | _ => exact readValue_scalar hb hw hr hc

end

/-- The reader of values takes exactly what is written to the depth it goes. -/
theorem reads_value (depth : Nat) : Reads (readValue depth) (WrittenValue depth) := by
  induction depth with
  | zero =>
    refine ⟨fun ⟨t, ht, _⟩ => ht.opens, ?_, ?_⟩
    · intro c v c' h
      obtain ⟨b, hb, hc⟩ := exists_blank c
      rw [readValue] at h
      split at h
      · cases h
      · obtain ⟨t, w, hw, hv, hr⟩ := readScalar_sound h
        exact ⟨b, w, hb, ⟨t, hw.written, hv⟩, by rw [hc, hr]⟩
    · rintro c v b w r hb ⟨t, ht, rfl⟩ hr hc
      exact readValue_scalar hb (written_zero_iff.1 ht) hr hc
  | succ depth ih =>
    refine ⟨fun ⟨t, ht, _⟩ => ht.opens, readValue_succ_sound ih, ?_⟩
    rintro c v b w r hb ⟨t, ht, rfl⟩ hr hc
    exact readValue_succ_complete ih hb ht hr hc

theorem readAll_complete {α : Type} {read : Reader α} {spec : α → List Char → Prop}
    (h : Accepts read spec) {s : String} {a : α} {x w y : List Char} (hx : Blank x)
    (hw : spec a w) (hy : Blank y) (hs : s.toList = x ++ (w ++ y)) : readAll read s = .ok a := by
  have tail : EndsValue y := by simpa using endsValue_blank hy (show EndsValue [] from nofun)
  obtain ⟨p, hp⟩ := h.complete (c := Cursor.ofString s) hx hw tail hs
  obtain ⟨p', hp'⟩ := exists_skip (c := ⟨y, p⟩) (w := []) hy (by simp) (by simp)
  simp [readAll, hp, finish, hp', bind, Except.bind]

theorem readAll_ok_iff {α : Type} {read : Reader α} {spec : α → List Char → Prop}
    (h : Reads read spec) (s : String) (a : α) :
    readAll read s = .ok a
      ↔ ∃ x w y, Blank x ∧ spec a w ∧ Blank y ∧ s.toList = x ++ (w ++ y) := by
  constructor
  · intro hr
    obtain ⟨⟨v, c⟩, hv, hr⟩ := exists_of_bind_ok hr
    obtain ⟨x, w, hx, hw, hc⟩ := h.sound hv
    obtain ⟨y, hy, hs⟩ := exists_blank c
    simp only [finish] at hr
    split at hr
    · rename_i ends
      obtain rfl := Except.ok.inj hr
      have ends : c.skip.rest = [] := by simpa using ends
      exact ⟨x, w, y, hx, hw, hy, by rw [← List.append_nil y, ← ends, ← hs]; exact hc⟩
    · cases hr
  · rintro ⟨x, w, y, hx, hw, hy, hs⟩
    exact readAll_complete h.accepts hx hw hy hs

theorem parse_ok_iff (s : String) (v : Value) :
    Value.parse s = .ok v ↔ ∃ t, IsText s t ∧ t.value = v := by
  rw [Value.parse, readAll_ok_iff (reads_value greatestDepth)]
  constructor
  · rintro ⟨x, w, y, hx, ⟨t, ht, hv⟩, hy, hs⟩
    exact ⟨t, ⟨x, w, y, hx, ht, hy, hs⟩, hv⟩
  · rintro ⟨t, ⟨x, w, y, hx, ht, hy, hs⟩, hv⟩
    exact ⟨x, w, y, hx, ⟨t, ht, hv⟩, hy, hs⟩

end SchemaBoard.Json
