import SchemaBoard.Proofs.Json.Numeral
import SchemaBoard.Proofs.Json.Quotation

/-!
# Lists and objects are read part by part

The loops that read lists and objects take the reader of a part. If that reader takes exactly what
is written in the ways of `spec`, the loops take exactly the rows of such parts between brackets.
Main statements: `Reads.readList_sound`, `Accepts.readList_complete`, `Reads.readObject_sound`,
`Reads.readObject_complete`.
-/
namespace SchemaBoard.Json

variable {α : Type} {c c' : Cursor} {b w r : List Char} {first : Bool}

/-! ## Blanks -/

theorem Blank.append {x y : List Char} (hx : Blank x) (hy : Blank y) : Blank (x ++ y) := by
  intro d hd
  rcases List.mem_append.1 hd with h | h
  · exact hx d h
  · exact hy d h

theorem Cursor.rest_skip (c : Cursor) : c.skip.rest = c.rest.dropWhile isBlank := by
  obtain ⟨cs, p⟩ := c
  simp only [skip]
  induction cs generalizing p with
  | nil => rfl
  | cons d cs ih =>
    by_cases h : isBlank d = true
    · simpa [skipBlanks, h] using ih (p.after d)
    · simp [skipBlanks, h]

theorem exists_blank (c : Cursor) : ∃ b, Blank b ∧ c.rest = b ++ c.skip.rest :=
  ⟨c.rest.takeWhile Cursor.isBlank, fun _ hd => List.mem_takeWhile_imp hd, by
    rw [Cursor.rest_skip, List.takeWhile_append_dropWhile]⟩

theorem exists_skip (hb : Blank b) (hw : ∀ d ∈ w.head?, Cursor.isBlank d = false)
    (hc : c.rest = b ++ w) : ∃ p, c.skip = ⟨w, p⟩ := by
  have rest : c.skip.rest = w := by
    rw [Cursor.rest_skip, hc, List.dropWhile_append_of_pos hb]
    cases w with
    | nil => rfl
    | cons d w => simp [hw d rfl]
  exact ⟨c.skip.position, by rw [← rest]⟩

/-! ## Readers of parts -/

/-- A text that begins like a value. -/
def Opens (w : List Char) : Prop := ∃ d r, w = d :: r ∧ Cursor.isBlank d = false ∧ d ≠ ']'

/-- What may follow a value. -/
def EndsValue (r : List Char) : Prop :=
  ∀ d ∈ r.head?, Cursor.isBlank d = true ∨ d = ',' ∨ d = ']' ∨ d = '\x7d'

/-- A reader takes what is written in the ways of `spec`, with blanks in front. -/
structure Accepts (read : Reader α) (spec : α → List Char → Prop) : Prop where
  opens : ∀ {a w}, spec a w → Opens w
  complete : ∀ {c a b w r}, Blank b → spec a w → EndsValue r → c.rest = b ++ (w ++ r) →
    ∃ p, read c = .ok (a, ⟨r, p⟩)

/-- A reader takes exactly what is written in the ways of `spec`, with blanks in front. -/
structure Reads (read : Reader α) (spec : α → List Char → Prop) : Prop where
  opens : ∀ {a w}, spec a w → Opens w
  sound : ∀ {c a c'}, read c = .ok (a, c') →
    ∃ b w, Blank b ∧ spec a w ∧ c.rest = b ++ (w ++ c'.rest)
  complete : ∀ {c a b w r}, Blank b → spec a w → EndsValue r → c.rest = b ++ (w ++ r) →
    ∃ p, read c = .ok (a, ⟨r, p⟩)

theorem Reads.accepts {read : Reader α} {spec : α → List Char → Prop} (h : Reads read spec) :
    Accepts read spec :=
  ⟨h.opens, h.complete⟩

theorem Opens.append (h : Opens w) (r : List Char) : Opens (w ++ r) := by
  obtain ⟨d, v, rfl, hd⟩ := h
  exact ⟨d, v ++ r, rfl, hd⟩

theorem Opens.head (h : Opens w) : ∀ d ∈ w.head?, Cursor.isBlank d = false := by
  obtain ⟨d, v, rfl, hd, -⟩ := h
  simpa using hd

theorem Lead.append (h : Lead first b) (hr : Blank r) : Lead first (b ++ r) := by
  cases first with
  | true => exact Blank.append h hr
  | false =>
    obtain ⟨x, y, hx, hy, rfl⟩ := h
    exact ⟨x, y ++ r, hx, hy.append hr, by simp⟩

theorem endsValue_cons {d : Char} (h : d = ',' ∨ d = ']' ∨ d = '\x7d') (r : List Char) :
    EndsValue (d :: r) := by
  intro e he
  obtain rfl : d = e := by simpa using he
  exact .inr h

theorem endsValue_blank (hb : Blank b) (hr : EndsValue r) : EndsValue (b ++ r) := by
  cases b with
  | nil => exact hr
  | cons d b =>
    intro e he
    obtain rfl : d = e := by simpa using he
    exact .inl (hb d List.mem_cons_self)

/-- Behind a part come the others and the closing bracket. -/
theorem endsValue_parts {part : α → List Char → Prop} {as : List α} (h : Parts part false as w)
    (hb : Blank b) {d : Char} (hd : d = ']' ∨ d = '\x7d') (r : List Char) :
    EndsValue (w ++ (b ++ d :: r)) := by
  cases h with
  | nil => exact endsValue_blank (b := b) hb (endsValue_cons (.inr hd) r)
  | cons lead _ _ =>
    obtain ⟨x, y, hx, -, rfl⟩ := lead
    simp only [List.append_assoc]
    exact endsValue_blank hx (endsValue_cons (.inl rfl) _)

theorem Parts.length_le {part : α → List Char → Prop} (opens : ∀ {a w}, part a w → Opens w)
    {as : List α} (h : Parts part first as w) : as.length ≤ w.length := by
  induction h with
  | nil => exact Nat.le_refl _
  | cons _ hw _ ih =>
    obtain ⟨d, v, rfl, -⟩ := opens hw
    simp only [List.length_cons, List.length_append]
    omega

/-! ## Items of a list -/

theorem nextItem_sound (h : nextItem first c = .ok (some c')) :
    ∃ b, Lead first b ∧ c.rest = b ++ c'.rest := by
  obtain ⟨b, hb, hc⟩ := exists_blank c
  rw [nextItem] at h
  generalize c.skip = a at h hc
  split at h
  · cases h
  rename_i d r ha
  split at h
  · cases h
  split at h
  · rename_i hf
    obtain rfl := Option.some.inj (Except.ok.inj h)
    exact ⟨b, by simpa [Lead, hf] using hb, hc⟩
  rename_i hf
  split at h
  · rename_i hd
    obtain ⟨y, hy, hr⟩ := exists_blank (a.advance 1)
    have behind : (a.advance 1).rest = r := by simp [Cursor.advance, ha]
    simp only at h
    split at h
    · cases h
    split at h
    · cases h
    obtain rfl := Option.some.inj (Except.ok.inj h)
    refine ⟨b ++ ',' :: y, ?_, ?_⟩
    · simp only [Lead, hf, Bool.false_eq_true, if_false]
      exact ⟨b, y, hb, hy, rfl⟩
    · simp [hc, ha, hd, ← behind, ← hr]
  · cases h

theorem nextItem_complete (hb : Lead first b) (hw : Opens w) (hc : c.rest = b ++ w) :
    ∃ p, nextItem first c = .ok (some ⟨w, p⟩) := by
  obtain ⟨d, v, rfl, hd, hne⟩ := hw
  cases first with
  | true =>
    obtain ⟨p, hp⟩ := exists_skip hb (by simpa using hd) hc
    exact ⟨p, by simp [nextItem, hp, hne]⟩
  | false =>
    obtain ⟨x, y, hx, hy, rfl⟩ := hb
    obtain ⟨p, hp⟩ := exists_skip (w := ',' :: (y ++ d :: v)) hx (by simp [Cursor.isBlank])
      (by simpa using hc)
    obtain ⟨q, hq⟩ := exists_skip (c := (⟨',' :: (y ++ d :: v), p⟩ : Cursor).advance 1)
      (w := d :: v) hy (by simpa using hd) (by simp [Cursor.advance])
    exact ⟨q, by simp [nextItem, hp, hq, hne]⟩

theorem nextItem_close (hb : Blank b) (hc : c.rest = b ++ ']' :: r) :
    nextItem first c = .ok none := by
  obtain ⟨p, hp⟩ := exists_skip hb (by simp [Cursor.isBlank]) hc
  simp [nextItem, hp]

theorem closed_ok_iff {close : Cursor → Cursor × Option Fault} {a v : α} :
    closed close v c = .ok (a, c') ↔ v = a ∧ close c = (c', none) := by
  rw [closed]
  split <;> rename_i hc <;> simp [hc]

theorem closeList_sound {a v : α} (h : closed closeList v c = .ok (a, c')) :
    v = a ∧ ∃ b, Blank b ∧ c.rest = b ++ ']' :: c'.rest := by
  obtain ⟨hv, h⟩ := closed_ok_iff.1 h
  obtain ⟨b, hb, hc⟩ := exists_blank c
  rw [closeList] at h
  generalize c.skip = e at h hc
  split at h
  · cases h
  rename_i d r he
  split at h
  · rename_i hd
    obtain rfl := (Prod.mk.inj h).1
    exact ⟨hv, b, hb, by simp [hc, he, hd, Cursor.advance]⟩
  · split at h <;> cases h

theorem closeList_complete (v : α) (hb : Blank b) (hc : c.rest = b ++ ']' :: r) :
    ∃ p, closed closeList v c = .ok (v, ⟨r, p⟩) := by
  obtain ⟨p, hp⟩ := exists_skip hb (by simp [Cursor.isBlank]) hc
  exact ⟨_, by simp [closed, closeList, hp, Cursor.advance]; rfl⟩

namespace Reads

variable {read : Reader α} {spec : α → List Char → Prop}

theorem readItems_sound (h : Reads read spec) {fuel : Nat} {found as : List α}
    (hr : readItems read fuel first found c = .ok (as, c')) :
    ∃ bs w, Parts spec first bs w ∧ as = found.reverse ++ bs ∧ c.rest = w ++ c'.rest := by
  induction fuel generalizing first found c with
  | zero => cases hr
  | succ fuel ih =>
    rw [readItems] at hr
    obtain ⟨o, ho, hr⟩ := exists_of_bind_ok hr
    cases o with
    | none =>
      obtain ⟨rfl, rfl⟩ := Prod.mk.inj (Except.ok.inj hr)
      exact ⟨[], [], .nil, by simp, rfl⟩
    | some c₁ =>
      obtain ⟨x, hx, hc⟩ := nextItem_sound ho
      obtain ⟨⟨v, c₂⟩, hv, hr⟩ := exists_of_bind_ok hr
      obtain ⟨y, w, hy, hw, hc₁⟩ := h.sound hv
      obtain ⟨bs, q, hq, has, hc₂⟩ := ih hr
      exact ⟨v :: bs, (x ++ y) ++ (w ++ q), .cons (hx.append hy) hw hq, by simp [has],
        by simp [hc, hc₁, hc₂]⟩

/-- From its bracket on a list is read to its closing one. -/
theorem readList_sound (h : Reads read spec) {as : List α} (hc : c.rest = '[' :: r)
    (hr : readList read c = .ok (as, c')) :
    ∃ w, Enclosed '[' ']' spec as w ∧ c.rest = w ++ c'.rest := by
  obtain ⟨⟨items, a⟩, hi, hr⟩ := exists_of_bind_ok hr
  obtain ⟨rfl, b, hb, ha⟩ := closeList_sound hr
  obtain ⟨bs, q, hq, has, hi⟩ := h.readItems_sound hi
  obtain rfl : items = bs := by simpa using has
  have behind : (c.advance 1).rest = r := by simp [Cursor.advance, hc]
  refine ⟨'[' :: (q ++ (b ++ [']'])), ⟨q, b, hq, hb, rfl⟩, ?_⟩
  rw [hc, ← behind, hi, ha]
  simp

end Reads

namespace Accepts

variable {read : Reader α} {spec : α → List Char → Prop}

theorem readItems_complete (h : Accepts read spec) {as : List α} (hw : Parts spec first as w)
    (hb : Blank b) {fuel : Nat} (fits : as.length < fuel) {found : List α}
    (hc : c.rest = w ++ (b ++ ']' :: r)) :
    ∃ p, readItems read fuel first found c = .ok (found.reverse ++ as, ⟨b ++ ']' :: r, p⟩) := by
  induction hw generalizing fuel found c with
  | nil =>
    obtain ⟨fuel, rfl⟩ := Nat.exists_eq_succ_of_ne_zero (Nat.ne_of_gt fits)
    refine ⟨c.position, ?_⟩
    have close (first : Bool) : nextItem first c = .ok none := nextItem_close hb hc
    rw [readItems, close, show b ++ ']' :: r = c.rest from hc.symm]
    simp [bind, Except.bind, pure, Except.pure]
  | @cons first a as x w q lead hw more ih =>
    obtain ⟨fuel, rfl⟩ := Nat.exists_eq_succ_of_ne_zero (Nat.ne_zero_of_lt fits)
    have tail : EndsValue (q ++ (b ++ ']' :: r)) := endsValue_parts more hb (.inl rfl) r
    obtain ⟨p₁, next⟩ := nextItem_complete (w := w ++ (q ++ (b ++ ']' :: r))) lead
      ((h.opens hw).append _) (by simpa using hc)
    obtain ⟨p₂, value⟩ := h.complete (c := ⟨w ++ (q ++ (b ++ ']' :: r)), p₁⟩) (b := []) nofun hw
      tail rfl
    obtain ⟨p, rest⟩ := @ih ⟨q ++ (b ++ ']' :: r), p₂⟩ fuel (Nat.lt_of_succ_lt_succ fits)
      (a :: found) rfl
    exact ⟨p, by simpa [readItems, next, value, bind, Except.bind] using rest⟩

theorem readList_complete (h : Accepts read spec) {as : List α}
    (hw : Enclosed '[' ']' spec as w) (hc : c.rest = w ++ r) :
    ∃ p, readList read c = .ok (as, ⟨r, p⟩) := by
  obtain ⟨q, b, hq, hb, rfl⟩ := hw
  have fits : as.length < c.rest.length := by
    have := hq.length_le h.opens
    simp only [hc, List.length_cons, List.length_append]
    omega
  obtain ⟨p, items⟩ : ∃ p, readItems read c.rest.length true [] (c.advance 1)
      = .ok ([].reverse ++ as, ⟨b ++ ']' :: r, p⟩) :=
    h.readItems_complete hq hb fits (by simp [Cursor.advance, hc])
  obtain ⟨p', close⟩ := closeList_complete as (c := ⟨b ++ ']' :: r, p⟩) hb rfl
  exact ⟨p', by simpa [readList, items, bind, Except.bind] using close⟩

end Accepts

/-! ## Members of an object -/

theorem MemberText.opens {part : α → List Char → Prop} {m : String × α} (h : MemberText part m w) :
    Opens w := by
  obtain ⟨q, y, z, v, ⟨u, -, rfl⟩, -, -, -, rfl⟩ := h
  exact ⟨'\x22', _, rfl, by decide, by decide⟩

/-- From its opening quote on a name is read as a string. -/
theorem name_sound {name : String} (hc : c.rest = '\x22' :: r)
    (h : (readQuotation (c.advance 1)).map some = .ok (some (name, c'))) :
    ∃ q, Quoted name q ∧ c.rest = q ++ c'.rest := by
  obtain ⟨x, hx, he⟩ := exists_of_map_ok h
  obtain rfl := Option.some.inj he
  obtain ⟨w, hw, hr⟩ := readQuotation_sound hx
  have behind : (c.advance 1).rest = r := by simp [Cursor.advance, hc]
  exact ⟨'\x22' :: w, hw, by rw [hc, ← behind, hr, List.cons_append]⟩

theorem name_complete {name : String} {q : List Char} (hq : Quoted name q) (hc : c.rest = q ++ r) :
    ∃ p, (readQuotation (c.advance 1)).map some = .ok (some (name, ⟨r, p⟩)) := by
  obtain ⟨v, hv, rfl⟩ := hq
  obtain ⟨p, hp⟩ := readQuotation_complete (c := c.advance 1) (r := r) ⟨v, hv, rfl⟩
    (by simp [Cursor.advance, hc])
  exact ⟨p, by rw [hp]; rfl⟩

theorem nextKey_sound {name : String} (h : nextKey first c = .ok (some (name, c'))) :
    ∃ b q, Lead first b ∧ Quoted name q ∧ c.rest = b ++ (q ++ c'.rest) := by
  obtain ⟨b, hb, hc⟩ := exists_blank c
  rw [nextKey] at h
  generalize c.skip = a at h hc
  split at h
  · cases h
  rename_i d r ha
  split at h
  · cases h
  split at h
  · rename_i hf
    split at h
    · rename_i hd
      obtain ⟨q, hq, hr⟩ := name_sound (by rw [ha, hd]) h
      exact ⟨b, q, by simpa [Lead, hf] using hb, hq, by rw [hc, hr]⟩
    · cases h
  rename_i hf
  split at h
  · rename_i hd
    obtain ⟨y, hy, hr⟩ := exists_blank (a.advance 1)
    have behind : (a.advance 1).rest = r := by simp [Cursor.advance, ha]
    simp only at h
    split at h
    · cases h
    rename_i d' r' hs
    split at h
    · rename_i hd'
      obtain ⟨q, hq, hn⟩ := name_sound (by rw [hs, hd']) h
      refine ⟨b ++ ',' :: y, q, ?_, hq, ?_⟩
      · simp only [Lead, hf, Bool.false_eq_true, if_false]
        exact ⟨b, y, hb, hy, rfl⟩
      · rw [hc, ha, hd, ← behind, hr, hn]
        simp
    · cases h
  · cases h

theorem nextKey_complete {name : String} {q : List Char} (hb : Lead first b) (hq : Quoted name q)
    (hc : c.rest = b ++ (q ++ r)) : ∃ p, nextKey first c = .ok (some (name, ⟨r, p⟩)) := by
  obtain ⟨v, hv⟩ : ∃ v, q ++ r = '\x22' :: v := by
    obtain ⟨v, -, rfl⟩ := hq
    exact ⟨_, rfl⟩
  have starts : ∀ d ∈ ('\x22' :: v).head?, Cursor.isBlank d = false := by simp [Cursor.isBlank]
  have name (p : Position) := name_complete (c := ⟨'\x22' :: v, p⟩) hq hv.symm
  rw [hv] at hc
  cases first with
  | true =>
    obtain ⟨p, hp⟩ := exists_skip hb starts hc
    obtain ⟨p', hn⟩ := name p
    exact ⟨p', by simpa [nextKey, hp] using hn⟩
  | false =>
    obtain ⟨x, y, hx, hy, rfl⟩ := hb
    obtain ⟨p, hp⟩ := exists_skip (w := ',' :: (y ++ '\x22' :: v)) hx (by simp [Cursor.isBlank])
      (by simpa using hc)
    obtain ⟨p', hp'⟩ := exists_skip (c := (⟨',' :: (y ++ '\x22' :: v), p⟩ : Cursor).advance 1) hy
      starts (by simp [Cursor.advance])
    obtain ⟨p'', hn⟩ := name p'
    exact ⟨p'', by simpa [nextKey, hp, hp'] using hn⟩

theorem nextKey_close (hb : Blank b) (hc : c.rest = b ++ '\x7d' :: r) :
    nextKey first c = .ok none := by
  obtain ⟨p, hp⟩ := exists_skip hb (by simp [Cursor.isBlank]) hc
  simp [nextKey, hp]

theorem readColon_sound (h : readColon c = .ok c') :
    ∃ b, Blank b ∧ c.rest = b ++ ':' :: c'.rest := by
  obtain ⟨b, hb, hc⟩ := exists_blank c
  rw [readColon] at h
  generalize c.skip = a at h hc
  split at h
  · cases h
  rename_i d r ha
  split at h
  · rename_i hd
    obtain rfl := Except.ok.inj h
    exact ⟨b, hb, by simp [hc, ha, hd, Cursor.advance]⟩
  · cases h

theorem readColon_complete (hb : Blank b) (hc : c.rest = b ++ ':' :: r) :
    ∃ p, readColon c = .ok ⟨r, p⟩ := by
  obtain ⟨p, hp⟩ := exists_skip hb (by simp [Cursor.isBlank]) hc
  exact ⟨_, by simp [readColon, hp, Cursor.advance]; rfl⟩

theorem closeObject_sound {a v : α} (h : closed closeObject v c = .ok (a, c')) :
    v = a ∧ ∃ b, Blank b ∧ c.rest = b ++ '\x7d' :: c'.rest := by
  obtain ⟨hv, h⟩ := closed_ok_iff.1 h
  obtain ⟨b, hb, hc⟩ := exists_blank c
  rw [closeObject] at h
  generalize c.skip = e at h hc
  split at h
  · cases h
  rename_i d r he
  split at h
  · rename_i hd
    obtain rfl := (Prod.mk.inj h).1
    exact ⟨hv, b, hb, by simp [hc, he, hd, Cursor.advance]⟩
  · cases h

theorem closeObject_complete (v : α) (hb : Blank b) (hc : c.rest = b ++ '\x7d' :: r) :
    ∃ p, closed closeObject v c = .ok (v, ⟨r, p⟩) := by
  obtain ⟨p, hp⟩ := exists_skip hb (by simp [Cursor.isBlank]) hc
  exact ⟨_, by simp [closed, closeObject, hp, Cursor.advance]; rfl⟩

namespace Reads

variable {read : Reader Value} {spec : Value → List Char → Prop}

theorem readMembers_sound (h : Reads read spec) {fuel : Nat} {found ms : List (String × Value)}
    (hr : readMembers read fuel first found c = .ok (ms, c')) :
    ∃ ns w, Parts (MemberText spec) first ns w ∧
      ms = ns.foldl (fun m x => Keyed.put x.1 x.2 m) found ∧ c.rest = w ++ c'.rest := by
  induction fuel generalizing first found c with
  | zero => cases hr
  | succ fuel ih =>
    rw [readMembers] at hr
    obtain ⟨o, ho, hr⟩ := exists_of_bind_ok hr
    cases o with
    | none =>
      obtain ⟨rfl, rfl⟩ := Prod.mk.inj (Except.ok.inj hr)
      exact ⟨[], [], .nil, rfl, rfl⟩
    | some key =>
      obtain ⟨name, c₁⟩ := key
      obtain ⟨x, q, hx, hq, hc⟩ := nextKey_sound ho
      obtain ⟨c₂, hcolon, hr⟩ := exists_of_bind_ok hr
      obtain ⟨y, hy, hc₁⟩ := readColon_sound hcolon
      obtain ⟨⟨v, c₃⟩, hv, hr⟩ := exists_of_bind_ok hr
      obtain ⟨z, w, hz, hw, hc₂⟩ := h.sound hv
      obtain ⟨ns, u, hu, hms, hc₃⟩ := ih hr
      refine ⟨(name, v) :: ns, x ++ ((q ++ (y ++ ':' :: (z ++ w))) ++ u),
        .cons hx ⟨q, y, z, w, hq, hy, hz, hw, rfl⟩ hu, hms, ?_⟩
      simp [hc, hc₁, hc₂, hc₃]

theorem readMembers_complete (h : Reads read spec) {ns : List (String × Value)}
    (hw : Parts (MemberText spec) first ns w) (hb : Blank b) {fuel : Nat} (fits : ns.length < fuel)
    {found : List (String × Value)} (hc : c.rest = w ++ (b ++ '\x7d' :: r)) :
    ∃ p, readMembers read fuel first found c
      = .ok (ns.foldl (fun m x => Keyed.put x.1 x.2 m) found, ⟨b ++ '\x7d' :: r, p⟩) := by
  induction hw generalizing fuel found c with
  | nil =>
    obtain ⟨fuel, rfl⟩ := Nat.exists_eq_succ_of_ne_zero (Nat.ne_of_gt fits)
    refine ⟨c.position, ?_⟩
    have close (first : Bool) : nextKey first c = .ok none := nextKey_close hb hc
    rw [readMembers, close, show b ++ '\x7d' :: r = c.rest from hc.symm]
    rfl
  | @cons first m ns x w u lead hw more ih =>
    obtain ⟨fuel, rfl⟩ := Nat.exists_eq_succ_of_ne_zero (Nat.ne_zero_of_lt fits)
    obtain ⟨q, y, z, v, hq, hy, hz, hv, rfl⟩ := hw
    have tail : EndsValue (u ++ (b ++ '\x7d' :: r)) := endsValue_parts more hb (.inr rfl) r
    obtain ⟨p₁, key⟩ := nextKey_complete (r := y ++ ':' :: (z ++ (v ++ (u ++ (b ++ '\x7d' :: r)))))
      lead hq (by simpa using hc)
    obtain ⟨p₂, colon⟩ := readColon_complete
      (c := ⟨y ++ ':' :: (z ++ (v ++ (u ++ (b ++ '\x7d' :: r)))), p₁⟩) hy rfl
    obtain ⟨p₃, value⟩ := h.complete (c := ⟨z ++ (v ++ (u ++ (b ++ '\x7d' :: r))), p₂⟩) hz hv
      tail rfl
    obtain ⟨p, rest⟩ := @ih ⟨u ++ (b ++ '\x7d' :: r), p₃⟩ fuel (Nat.lt_of_succ_lt_succ fits)
      (Keyed.put m.1 m.2 found) rfl
    exact ⟨p, by simpa [readMembers, key, colon, value, bind, Except.bind] using rest⟩

/-- From its brace on an object is read to its closing one. -/
theorem readObject_sound (h : Reads read spec) {ms : List (String × Value)}
    (hc : c.rest = '\x7b' :: r) (hr : readObject read c = .ok (ms, c')) :
    ∃ ns w, Enclosed '\x7b' '\x7d' (MemberText spec) ns w ∧ ms = Keyed.collect ns ∧
      c.rest = w ++ c'.rest := by
  obtain ⟨⟨members, a⟩, hm, hr⟩ := exists_of_bind_ok hr
  obtain ⟨rfl, b, hb, ha⟩ := closeObject_sound hr
  obtain ⟨ns, q, hq, hns, hm⟩ := h.readMembers_sound hm
  have behind : (c.advance 1).rest = r := by simp [Cursor.advance, hc]
  refine ⟨ns, '\x7b' :: (q ++ (b ++ ['\x7d'])), ⟨q, b, hq, hb, rfl⟩, hns, ?_⟩
  rw [hc, ← behind, hm, ha]
  simp

theorem readObject_complete (h : Reads read spec) {ns : List (String × Value)}
    (hw : Enclosed '\x7b' '\x7d' (MemberText spec) ns w) (hc : c.rest = w ++ r) :
    ∃ p, readObject read c = .ok (Keyed.collect ns, ⟨r, p⟩) := by
  obtain ⟨q, b, hq, hb, rfl⟩ := hw
  have fits : ns.length < c.rest.length := by
    have := hq.length_le MemberText.opens
    simp only [hc, List.length_cons, List.length_append]
    omega
  obtain ⟨p, members⟩ : ∃ p, readMembers read c.rest.length true [] (c.advance 1)
      = .ok (Keyed.collect ns, ⟨b ++ '\x7d' :: r, p⟩) :=
    h.readMembers_complete hq hb fits (by simp [Cursor.advance, hc])
  obtain ⟨p', close⟩ := closeObject_complete (Keyed.collect ns) (c := ⟨b ++ '\x7d' :: r, p⟩) hb rfl
  refine ⟨p', ?_⟩
  rw [readObject, members]
  exact close

end Reads

end SchemaBoard.Json
