import SchemaBoard.Json.Format.Read
import SchemaBoard.Proofs.Json.Form
import SchemaBoard.Proofs.Json.Skip

/-!
# Forms are read straight from texts

A text whose value is converted to a form is also read in that form without the value between. Of
members with one name the value keeps the last, while the reader refuses the second; so the names
of an object are to be distinct. The induction is on the form: `Accepts form.read form.Writes` holds
for a list if it holds for its items, and for a record if it holds for its fields. Main statements:
`Format.direct`, `parse_direct`.
-/
namespace SchemaBoard.Json

variable {depth : Nat} {first : Bool} {c : Cursor} {b w r : List Char}

/-- A text writes a value of a form: no object in it has two members of one name, and its value is
converted. -/
def Format.Writes (form : Format) (a : form.Carrier) (w : List Char) : Prop :=
  ∃ depth t, Written depth t w ∧ t.Distinct ∧ form.ofValue t.value = .ok a

/-- All readers of forms begin by leaving blanks out. -/
theorem accepts_of {form : Format}
    (h : ∀ {c : Cursor} {depth : Nat} {t : Tree} {a : form.Carrier} {w r : List Char}
      {p : Position}, Written depth t w → t.Distinct → form.ofValue t.value = .ok a →
      EndsValue r → c.skip = ⟨w ++ r, p⟩ → ∃ p, form.read c = .ok (a, ⟨r, p⟩)) :
    Accepts form.read form.Writes := by
  constructor
  · rintro a w ⟨depth, t, hw, -⟩
    exact hw.opens
  · rintro c a b w r hb ⟨depth, t, hw, hd, ha⟩ hr hc
    obtain ⟨p, skip⟩ := exists_skip hb (hw.opens.append r).head hc
    exact h hw hd ha hr skip

/-- Every field is read straight from the text. -/
def Fields.Direct : Fields → Prop
  | .nil => True
  | .cons _ form rest => Accepts form.read form.Writes ∧ rest.Direct

/-! ## Scalars -/

theorem eq_natural_of_count {v : Value} {n : UInt64} (h : Format.count.ofValue v = .ok n) :
    v = .number (.natural n) := by
  cases v with
  | number m =>
    cases m with
    | natural k =>
      obtain rfl := Except.ok.inj h
      rfl
    | _ => cases h
  | _ => cases h

theorem accepts_count : Accepts Format.count.read Format.count.Writes := by
  refine accepts_of fun {c depth t n w r p} hw _ ha hr skip => ?_
  obtain ⟨m, rfl, hm⟩ := Tree.value_eq_natural_iff.1 (eq_natural_of_count ha)
  have hw : w = m.magnitude := by
    have written : w = m.write := by cases depth <;> exact hw
    simpa [Literal.write, hm.positive] using written
  obtain ⟨d, u, begins, digit⟩ : ∃ d u, w ++ r = d :: u ∧ d.isDigit = true := by
    obtain ⟨d, more, whole, digit⟩ := m.valid.whole.exists_cons
    exact ⟨d, _, by rw [hw, Literal.magnitude, whole]; rfl, digit⟩
  have positive : d ≠ '-' := ne_of_isDigit digit (by decide)
  obtain ⟨p', hp⟩ := number_complete (c := ⟨w ++ r, p⟩) m hr (by rw [hw])
  rw [hm.positive, Tree.number_eq_natural_iff.2 hm, begins] at hp
  rw [begins] at skip
  refine ⟨p', ?_⟩
  simp [Format.read, readCount, skip, startsWith, positive, digit, hp, Number.toCount]

theorem accepts_flag : Accepts Format.flag.read Format.flag.Writes := by
  refine accepts_of fun {c depth t x w r p} hw _ ha hr skip => ?_
  cases t with
  | bool y =>
    obtain rfl := Except.ok.inj ha
    have hw : w = (if y then "true" else "false").toList := by cases depth <;> exact hw
    cases y with
    | true =>
      obtain ⟨p', hp⟩ := @word_complete ⟨w ++ r, p⟩ r _ 't' "rue".toList true (by rw [hw]; rfl)
      exact ⟨p', by simpa [Format.read, readFlag, skip, startsWith, hw] using hp⟩
    | false =>
      obtain ⟨p', hp⟩ := @word_complete ⟨w ++ r, p⟩ r _ 'f' "alse".toList false (by rw [hw]; rfl)
      exact ⟨p', by simpa [Format.read, readFlag, skip, startsWith, hw] using hp⟩
  | _ => cases ha

theorem accepts_text : Accepts Format.text.read Format.text.Writes := by
  refine accepts_of fun {c depth t x w r p} hw _ ha hr skip => ?_
  cases t with
  | string s =>
    obtain rfl := Except.ok.inj ha
    have hw : Quoted s w := by cases depth <;> exact hw
    obtain ⟨q, hq, rfl⟩ := hw
    obtain ⟨p', hp⟩ := readQuotation_complete (r := r)
      (c := (⟨'\x22' :: (q ++ ['\x22']) ++ r, p⟩ : Cursor).advance 1) ⟨q, hq, rfl⟩ rfl
    refine ⟨p', ?_⟩
    simp only [Format.read, readText, skip]
    rwa [if_pos (by simp [startsWith])]
  | _ => cases ha

/-! ## Lists -/

/-- A list stands between brackets, its items at one depth less. -/
theorem Written.list {ts : List Tree} (hw : Written depth (.array ts) w) :
    ∃ k, Enclosed '[' ']' (Written k) ts w := by
  cases depth with
  | zero => exact absurd hw id
  | succ k => exact ⟨k, hw⟩

theorem Written.object {ns : List (String × Tree)} (hw : Written depth (.object ns) w) :
    ∃ k, Enclosed '\x7b' '\x7d' (MemberText (Written k)) ns w := by
  cases depth with
  | zero => exact absurd hw id
  | succ k => exact ⟨k, hw⟩

theorem parts_writes {item : Format} {ts : List Tree} {as : List item.Carrier}
    (hw : Parts (Written depth) first ts w) (distinct : ∀ t ∈ ts, t.Distinct)
    (h : List.Forall₂ (fun v a => item.ofValue v = .ok a) (ts.map Tree.value) as) :
    Parts item.Writes first as w := by
  induction hw generalizing as with
  | nil =>
    cases h
    exact .nil
  | cons lead ht _ ih =>
    obtain ⟨here, there⟩ := List.forall_mem_cons.1 distinct
    cases h with
    | cons ha has => exact .cons lead ⟨depth, _, ht, here, ha⟩ (ih there has)

theorem accepts_list {item : Format} (h : Accepts item.read item.Writes) :
    Accepts (Format.list item).read (Format.list item).Writes := by
  refine accepts_of fun {c depth t as w r p} hw hd ha hr skip => ?_
  cases t with
  | array ts =>
    obtain ⟨k, q, x, hq, hx, rfl⟩ := hw.list
    rw [Tree.value, Tree.values_eq_map] at ha
    have items : Parts item.Writes true as q :=
      parts_writes hq hd.items (convertItems_ok_iff.1 ha)
    obtain ⟨p', hp⟩ := h.readList_complete (c := ⟨'[' :: (q ++ (x ++ [']'])) ++ r, p⟩)
      ⟨q, x, items, hx, rfl⟩ rfl
    refine ⟨p', ?_⟩
    simp only [Format.read, skip]
    rwa [if_pos (by simp [startsWith])]
  | _ => cases ha

/-! ## Records -/

theorem readMember_of_notMem {n : String} : (fields : Fields) → n ∉ fields.names →
    (ss : fields.Slots) → fields.readMember n ss c = .other
  | .nil, _, _ => rfl
  | .cons name _ rest, hn, (s, ss) => by
    obtain ⟨here, there⟩ := not_or.1 (mt List.mem_cons.2 hn)
    rw [Fields.readMember.eq_def]
    simp only [if_neg here, readMember_of_notMem rest there ss, Member.map]

/-- The value of a field is read into its slot. -/
theorem readMember_complete {n : String} {t : Tree} {x y : List Char} (hx : Blank x) (hy : Blank y)
    (hw : Written depth t w) (hd : t.Distinct) (hr : EndsValue r)
    (hc : c.rest = x ++ ':' :: (y ++ (w ++ r))) : (fields : Fields) → fields.Direct →
    fields.names.Nodup → n ∈ fields.names → (ss ss' : fields.Slots) →
    fields.Filled [(n, t.value)] ss ss' →
    ∃ p, fields.readMember n ss c = .read (.ok (ss', ⟨r, p⟩))
  | .nil, _, _, hn, _, _, _ => absurd hn List.not_mem_nil
  | .cons name form rest, h, hf, hn, (s, ss), (s', ss'), hs => by
    obtain ⟨fresh, hf⟩ := List.nodup_cons.1 hf
    rw [Fields.readMember.eq_def]
    by_cases here : n = name
    · subst here
      simp only [Fields.Filled, List.lookup_cons, BEq.rfl, Fields.SlotFilled,
        Fields.filled_of_notMem t.value rest fresh] at hs
      obtain ⟨⟨rfl, a, ha, rfl⟩, rfl⟩ := hs
      obtain ⟨p, colon⟩ := readColon_complete hx hc
      obtain ⟨p', value⟩ := h.1.complete (c := ⟨y ++ (w ++ r), p⟩) hy ⟨depth, t, hw, hd, ha⟩ hr rfl
      exact ⟨p', by simp [colon, value, bind, Except.bind, pure, Except.pure]⟩
    · simp only [Fields.Filled, List.lookup_cons, List.lookup_nil,
        beq_eq_false_iff_ne.2 (Ne.symm here), Fields.SlotFilled] at hs
      obtain ⟨rfl, hs⟩ := hs
      have there := (List.mem_cons.1 hn).resolve_left here
      obtain ⟨p, hp⟩ := readMember_complete hx hy hw hd hr hc rest h.2 hf there ss ss' hs
      exact ⟨p, by simp [here, hp, Member.map, Except.map]⟩

/-- One round reads a member into the slot of its field, or passes over it. -/
theorem readSlots_member {fields : Fields} (h : fields.Direct) (hf : fields.names.Nodup)
    {m : String × Tree} {x : List Char} (lead : Lead first x)
    (hw : MemberText (Written depth) m w) (hd : m.2.Distinct) {ss ss' : fields.Slots}
    (hs : fields.Filled [(m.1, m.2.value)] ss ss') (hr : EndsValue r)
    (hc : c.rest = x ++ (w ++ r)) (k : Nat) :
    ∃ p, readSlots fields.readMember (k + 1) first ss c
      = readSlots fields.readMember k false ss' ⟨r, p⟩ := by
  obtain ⟨u, y, z, v, hu, hy, hz, hv, rfl⟩ := hw
  obtain ⟨p₁, key⟩ := nextKey_complete (r := y ++ ':' :: (z ++ (v ++ r))) lead hu
    (by simpa using hc)
  by_cases field : m.1 ∈ fields.names
  · obtain ⟨p, value⟩ := readMember_complete (c := ⟨_, p₁⟩) hy hz hv hd hr rfl fields h hf field ss
      ss' hs
    exact ⟨p, by simp [readSlots, key, value, bind, Except.bind]⟩
  · obtain rfl := (Fields.filled_of_notMem m.2.value fields field ss ss').1 hs
    obtain ⟨p₂, colon⟩ := readColon_complete (c := ⟨_, p₁⟩) (r := z ++ (v ++ r)) hy rfl
    obtain ⟨p, passed⟩ := passValue_complete (c := ⟨_, p₂⟩) hz hv hr rfl
    refine ⟨p, ?_⟩
    simp [readSlots, key, readMember_of_notMem fields field, colon, passed, bind, Except.bind]

theorem readSlots_complete {fields : Fields} (h : fields.Direct) (hf : fields.names.Nodup)
    {ns : List (String × Tree)} (hw : Parts (MemberText (Written depth)) first ns w)
    (names : (ns.map Prod.fst).Nodup) (distinct : ∀ m ∈ ns, m.2.Distinct)
    {ss ss' : fields.Slots} (hs : fields.Filled (ns.map fun m => (m.1, m.2.value)) ss ss')
    (hb : Blank b) {k : Nat} (fits : ns.length < k) (hc : c.rest = w ++ (b ++ '\x7d' :: r)) :
    ∃ p, readSlots fields.readMember k first ss c = .ok (.ok ss', ⟨b ++ '\x7d' :: r, p⟩) := by
  -- on the row of members; the slots that one round leaves are those the next begins with
  induction hw generalizing k ss c with
  | nil =>
    obtain ⟨k, rfl⟩ := Nat.exists_eq_succ_of_ne_zero (Nat.ne_zero_of_lt fits)
    obtain rfl := (fields.filled_nil ss ss').1 hs
    have close (first : Bool) : nextKey first c = .ok none := nextKey_close hb hc
    refine ⟨c.position, ?_⟩
    rw [readSlots, close, show b ++ '\x7d' :: r = c.rest from hc.symm]
    rfl
  | @cons first m ns x v q lead hm more ih =>
    obtain ⟨k, rfl⟩ := Nat.exists_eq_succ_of_ne_zero (Nat.ne_zero_of_lt fits)
    obtain ⟨fresh, names⟩ := List.nodup_cons.1 names
    obtain ⟨here, there⟩ := List.forall_mem_cons.1 distinct
    have fresh : m.1 ∉ (ns.map fun m => (m.1, m.2.value)).map Prod.fst := by
      simpa [Function.comp_def] using fresh
    obtain ⟨ts, one, others⟩ := (fields.filled_cons_iff fresh ss ss').1 hs
    have tail : EndsValue (q ++ (b ++ '\x7d' :: r)) := endsValue_parts more hb (.inr rfl) r
    obtain ⟨p₁, round⟩ := readSlots_member (c := c) h hf lead hm here one tail (by simpa using hc) k
    obtain ⟨p, rest⟩ := ih (c := ⟨q ++ (b ++ '\x7d' :: r), p₁⟩) names there others
      (Nat.lt_of_succ_lt_succ fits) rfl
    exact ⟨p, round.trans rest⟩

/-- The fields of a record are read from a list in the order of their declaration. -/
theorem readFields_complete {b r : List Char} (hb : Blank b) : (fields : Fields) → fields.Direct →
    (expected : String) → (n : Nat) → {first : Bool} → {ts : List Tree} → {w : List Char} →
    {c : Cursor} → Parts (Written depth) first ts w → (∀ t ∈ ts, t.Distinct) →
    (a : fields.Carrier) → fields.ofList expected n (ts.map Tree.value) = .ok (a, []) →
    c.rest = w ++ (b ++ ']' :: r) →
    ∃ p, fields.readList expected n first c = .ok (.ok a, ⟨b ++ ']' :: r, p⟩)
  | .nil, _, _, _, _, ts, _, c, hw, _, _, ha, hc => by
    have none : ts.map Tree.value = [] := (Prod.mk.inj (Except.ok.inj ha)).2
    obtain rfl := List.map_eq_nil_iff.1 none
    cases hw
    exact ⟨c.position, by rw [show b ++ ']' :: r = c.rest from hc.symm]; rfl⟩
  | .cons _ form rest, h, expected, n, _, ts, _, c, hw, distinct, (a, as), ha, hc => by
    cases hw with
    | nil => cases ha
    | @cons _ t ts x w q lead ht more =>
      obtain ⟨here, there⟩ := List.forall_mem_cons.1 distinct
      obtain ⟨a', hv, ha⟩ := exists_of_bind_ok ha
      obtain ⟨⟨as', vs⟩, has, ha⟩ := exists_of_bind_ok ha
      obtain ⟨⟨rfl, rfl⟩, rfl⟩ := by simpa [Prod.ext_iff] using Except.ok.inj ha
      have tail : EndsValue (q ++ (b ++ ']' :: r)) := endsValue_parts more hb (.inl rfl) r
      obtain ⟨p₁, next⟩ := nextItem_complete (w := w ++ (q ++ (b ++ ']' :: r))) lead
        (ht.opens.append _) (by simpa using hc)
      obtain ⟨p₂, value⟩ := h.1.complete (c := ⟨w ++ (q ++ (b ++ ']' :: r)), p₁⟩) (b := []) nofun
        ⟨depth, t, ht, here, hv⟩ tail rfl
      obtain ⟨p, hp⟩ := readFields_complete (c := ⟨q ++ (b ++ ']' :: r), p₂⟩) hb rest h.2 expected
        (n + 1) more there as' has rfl
      refine ⟨p, ?_⟩
      simp only [Fields.readList, next, value, hp, bind, Except.bind]
      rfl

/-- A record that is written as an object, from its bracket on. -/
theorem readRecord_object {name : String} {fields : Fields} (h : fields.Direct)
    (hf : fields.names.Nodup) {ns : List (String × Tree)} {q x : List Char} {p : Position}
    (hq : Parts (MemberText (Written depth)) true ns q) (hx : Blank x)
    (hd : (Tree.object ns).Distinct) {a : fields.Carrier}
    (ha : Format.ofValue (.record name fields) (Tree.object ns).value = .ok a)
    (hs : c.skip = ⟨'\x7b' :: (q ++ (x ++ '\x7d' :: r)), p⟩) :
    ∃ p, (Format.record name fields).read c = .ok (a, ⟨r, p⟩) := by
  obtain ⟨names, distinct⟩ := hd.members
  rw [Tree.value_object_of_nodup names] at ha
  obtain ⟨ss, hss, ha⟩ := exists_of_bind_ok ha
  have filled := (Fields.convertMembers_ok_iff hf (by simpa [Function.comp_def] using names)).1 hss
  have fits : ns.length < ('\x7b' :: (q ++ (x ++ '\x7d' :: r))).length := by
    have := hq.length_le MemberText.opens
    simp only [List.length_cons, List.length_append]
    omega
  obtain ⟨p₁, members⟩ := readSlots_complete
    (c := (⟨'\x7b' :: (q ++ (x ++ '\x7d' :: r)), p⟩ : Cursor).advance 1) h hf hq names distinct
    filled hx fits rfl
  obtain ⟨p₂, close⟩ := closeObject_complete a (c := ⟨x ++ '\x7d' :: r, p₁⟩) hx rfl
  refine ⟨p₂, ?_⟩
  simp only [Format.read, hs]
  rw [if_neg (by simp [startsWith]), if_pos (by simp [startsWith])]
  simp only [members, bind, Except.bind, ha]
  exact close

/-- A record that is written as a list, from its bracket on. -/
theorem readRecord_list {name : String} {fields : Fields} (h : fields.Direct) {ts : List Tree}
    {q x : List Char} {p : Position} (hq : Parts (Written depth) true ts q) (hx : Blank x)
    (hd : (Tree.array ts).Distinct) {a : fields.Carrier}
    (ha : Format.ofValue (.record name fields) (Tree.array ts).value = .ok a)
    (hs : c.skip = ⟨'[' :: (q ++ (x ++ ']' :: r)), p⟩) :
    ∃ p, (Format.record name fields).read c = .ok (a, ⟨r, p⟩) := by
  rw [Tree.value, Tree.values_eq_map] at ha
  obtain ⟨⟨a', vs⟩, has, ha⟩ := exists_of_bind_ok ha
  simp only at ha
  -- a list with more items than fields is not converted
  split at ha
  · rename_i none
    obtain rfl := Except.ok.inj ha
    obtain rfl : vs = [] := by simpa using none
    obtain ⟨p₁, items⟩ := readFields_complete
      (c := (⟨'[' :: (q ++ (x ++ ']' :: r)), p⟩ : Cursor).advance 1) hx fields h _ 0 hq hd.items a'
      has rfl
    obtain ⟨p₂, close⟩ := closeList_complete a' (c := ⟨x ++ ']' :: r, p₁⟩) hx rfl
    refine ⟨p₂, ?_⟩
    simp only [Format.read, hs]
    rw [if_pos (by simp [startsWith])]
    simp only [items, bind, Except.bind]
    exact close
  · cases ha

theorem accepts_record {name : String} {fields : Fields} (h : fields.Direct)
    (hf : fields.names.Nodup) :
    Accepts (Format.record name fields).read (Format.record name fields).Writes := by
  refine accepts_of fun {c depth t a w r p} hw hd ha hr skip => ?_
  cases t with
  | array ts =>
    obtain ⟨k, q, x, hq, hx, rfl⟩ := hw.list
    exact readRecord_list h hq hx hd ha (by simpa using skip)
  | object ns =>
    obtain ⟨k, q, x, hq, hx, rfl⟩ := hw.object
    exact readRecord_object h hf hq hx hd ha (by simpa using skip)
  | _ => cases ha

/-! ## Forms -/

mutual

/-- The reader of a form takes every text that writes a value of the form, and gives that value. -/
theorem Format.direct : (form : Format) → form.Distinct → Accepts form.read form.Writes
  | .count, _ => accepts_count
  | .flag, _ => accepts_flag
  | .text, _ => accepts_text
  | .list item, h => accepts_list (Format.direct item h)
  | .record _ fields, h => accepts_record (Fields.direct fields h.2) h.1

theorem Fields.direct : (fields : Fields) → fields.Distinct → fields.Direct
  | .nil, _ => trivial
  | .cons _ form rest, h => ⟨Format.direct form h.1, Fields.direct rest h.2⟩

end

/-- A text in which no object has two members of one name is read straight in a form to which its
value is converted. -/
theorem parse_direct {form : Format} (h : form.Distinct) {s : String} {t : Tree} (hs : IsText s t)
    (hd : t.Distinct) {a : form.Carrier} (ha : form.ofValue t.value = .ok a) :
    form.parse s = .ok a := by
  obtain ⟨x, w, y, hx, hw, hy, hs⟩ := hs
  exact readAll_complete (form.direct h) hx ⟨greatestDepth, t, hw, hd, ha⟩ hy hs

example : (Format.record "Pair" (.cons "first" .count (.cons "second" .flag .nil))).parse
    " \x7b\"second\":true, \"other\":[1.5, null], \"first\":18446744073709551615\x7d "
      = .ok (18446744073709551615, true, ()) := by
  rfl

end SchemaBoard.Json
