import SchemaBoard.Proofs.Json.Form
import SchemaBoard.Proofs.Json.Parse

/-!
# What is printed is a text

The print of a value is in the grammar and writes that value, with every name in it once. Binary
fractions and negative numbers are left aside: no form has them. Main statements:
`Format.printed`, `Printed.exists_isText`.
-/
namespace SchemaBoard.Json

variable {depth : Nat} {v : Value} {vs : List Value} {ms : List (String × Value)}

/-! ## Strings -/

/-- A control character is written by its number. -/
theorem spelling_control {c : Char} (h : c.toNat < 32) :
    Spelling c ['\\', 'u', '0', '0', hexDigit (c.toNat / 16), hexDigit (c.toNat % 16)] := by
  have number : ∀ n < 32, hexNumber? '0' '0' (hexDigit (n / 16)) (hexDigit (n % 16)) = some n := by
    decide
  have leading : isLeading c.toNat = false := by
    simp [isLeading]
    omega
  have trailing : isTrailing c.toNat = false := by
    simp [isTrailing]
    omega
  have unit := Spelling.unit (number _ h) leading trailing
  rwa [Char.ofNat_toNat] at unit

theorem spelling_escapeChar (c : Char) : Spelling c (escapeChar c) := by
  unfold escapeChar
  -- all but the last case are escapes of one letter
  split
  case h_8 quote slash _ _ _ _ _ =>
    split
    · rename_i control
      exact spelling_control control
    · rename_i control
      exact .plain (Nat.le_of_not_lt control) quote slash
  all_goals exact .short rfl

theorem spelled_escapeChars (cs : List Char) : Spelled cs (escapeChars cs) := by
  induction cs with
  | nil => exact .nil
  | cons c cs ih => exact .cons (spelling_escapeChar c) ih

theorem quoted_writeString (s : String) : Quoted s (writeString s) :=
  ⟨escapeChars s.toList, spelled_escapeChars s.toList, rfl⟩

/-! ## Counts -/

theorem isDigits_writeNat (n : Nat) : IsDigits (writeNat n) :=
  ⟨Nat.toDigits_ne_nil, fun _ hd => Nat.isDigit_of_mem_toDigits (by decide) (by decide) hd⟩

theorem decimal_writeNat (n : Nat) : decimal 0 (writeNat n) = n := by
  have digits : decimal 0 (writeNat n) = Nat.ofDigitChars 10 (writeNat n) 0 := by
    simp only [decimal, Nat.ofDigitChars, digitValue, Nat.mul_comm]
    rfl
  rw [digits, writeNat, Nat.ofDigitChars_toDigits (by decide) (by decide)]

theorem eq_zero_of_head {n : Nat} (h : (writeNat n).head? = some '0') : n = 0 := by
  induction n using Nat.strongRecOn with
  | _ n ih =>
    by_cases hn : n < 10
    · have digit : ∀ m < 10, Nat.digitChar m = '0' → m = 0 := by decide
      rw [writeNat, Nat.toDigits_of_lt_base hn] at h
      exact digit n hn (by simpa using h)
    · rw [writeNat, Nat.toDigits_of_base_le (by decide) (Nat.le_of_not_lt hn)] at h
      rw [List.head?_append_of_ne_nil _ Nat.toDigits_ne_nil] at h
      have := ih (n / 10) (by omega) h
      omega

theorem lead_writeNat {n : Nat} (h : (writeNat n).head? = some '0') : writeNat n = ['0'] := by
  rw [eq_zero_of_head h]
  rfl

/-- The digits of a count, as they are printed. -/
def Literal.ofCount (n : UInt64) : Literal := ⟨false, writeNat n.toNat, none, none⟩

theorem isUnsigned_ofCount (n : UInt64) : (Literal.ofCount n).IsUnsigned n.toNat :=
  ⟨rfl, rfl, rfl, decimal_writeNat n.toNat⟩

def Numeral.ofCount (n : UInt64) : Numeral where
  toLiteral := .ofCount n
  valid := ⟨isDigits_writeNat n.toNat, lead_writeNat, nofun, nofun⟩
  inRange := by rw [(number?_eq_natural_iff _ n).2 (isUnsigned_ofCount n)]; rfl

theorem number_ofCount (n : UInt64) : (Numeral.ofCount n).number = .natural n :=
  Tree.number_eq_natural_iff.2 (isUnsigned_ofCount n)

theorem write_ofCount (n : UInt64) : (Numeral.ofCount n).write = writeNat n.toNat := by
  simp [Numeral.ofCount, Literal.ofCount, Literal.write, Literal.magnitude, Literal.behindWhole]

/-! ## Rows -/

section

variable {α : Type} {part : α → List Char → Prop} {write : α → List Char} {as : List α}

/-- Parts with commas between them. -/
def row (write : α → List Char) : List α → List Char
  | [] => []
  | a :: as => write a ++ as.flatMap fun a => ',' :: write a

theorem parts_commas (h : ∀ a ∈ as, part a (write a)) :
    Parts part false as (as.flatMap fun a => ',' :: write a) := by
  induction as with
  | nil => exact .nil
  | cons a as ih =>
    obtain ⟨here, there⟩ := List.forall_mem_cons.1 h
    have lead : Lead false [','] := ⟨[], [], nofun, nofun, rfl⟩
    simpa using Parts.cons lead here (ih there)

theorem Parts.and {P : α → List Char → Prop} {Q : α → Prop} (h : ∀ a w, part a w → P a w ∧ Q a)
    {first : Bool} {w : List Char} (hw : Parts part first as w) :
    Parts P first as w ∧ ∀ a ∈ as, Q a := by
  induction hw with
  | nil => exact ⟨.nil, nofun⟩
  | cons lead ha _ ih =>
    obtain ⟨here, holds⟩ := h _ _ ha
    exact ⟨.cons lead here ih.1, List.forall_mem_cons.2 ⟨holds, ih.2⟩⟩

/-- What holds of every part is told apart from how the parts are written. -/
theorem Enclosed.and {P : α → List Char → Prop} {Q : α → Prop} (h : ∀ a w, part a w → P a w ∧ Q a)
    {o e : Char} {w : List Char} (hw : Enclosed o e part as w) :
    Enclosed o e P as w ∧ ∀ a ∈ as, Q a := by
  obtain ⟨q, b, hq, hb, rfl⟩ := hw
  obtain ⟨written, holds⟩ := hq.and h
  exact ⟨⟨q, b, written, hb, rfl⟩, holds⟩

theorem MemberText.and {P : α → List Char → Prop} {Q : α → Prop} {m : String × α} {w : List Char}
    (hw : MemberText (fun a w => P a w ∧ Q a) m w) : MemberText P m w ∧ Q m.2 := by
  obtain ⟨q, x, y, r, hq, hx, hy, ⟨hr, holds⟩, rfl⟩ := hw
  exact ⟨⟨q, x, y, r, hq, hx, hy, hr, rfl⟩, holds⟩

theorem parts_row (h : ∀ a ∈ as, part a (write a)) : Parts part true as (row write as) := by
  cases as with
  | nil => exact .nil
  | cons a as =>
    obtain ⟨here, there⟩ := List.forall_mem_cons.1 h
    have lead : Lead true [] := fun _ hc => absurd hc List.not_mem_nil
    exact .cons lead here (parts_commas there)

theorem enclosed_row (h : ∀ a ∈ as, part a (write a)) (o e : Char) :
    Enclosed o e part as (o :: (row write as ++ [e])) :=
  ⟨row write as, [], parts_row h, nofun, rfl⟩

end

theorem writeItems_eq (vs : List Value) : Value.writeItems vs = row Value.write vs := by
  induction vs with
  | nil => rfl
  | cons v vs ih =>
    cases vs with
    | nil => simp [Value.writeItems, row]
    | cons w vs => simp [Value.writeItems, row, ih]

def writeMember (m : String × Value) : List Char := writeString m.1 ++ ':' :: m.2.write

theorem writeMembers_eq (ms : List (String × Value)) :
    Value.writeMembers ms = row writeMember ms := by
  induction ms with
  | nil => rfl
  | cons m ms ih =>
    cases ms with
    | nil => simp [Value.writeMembers, row, writeMember]
    | cons n ms => simp [Value.writeMembers, row, writeMember, ih]

theorem memberText_writeMember {part : Value → List Char → Prop} {m : String × Value}
    (h : part m.2 m.2.write) : MemberText part m (writeMember m) :=
  ⟨writeString m.1, [], [], m.2.write, quoted_writeString m.1, nofun, nofun, h, rfl⟩

/-! ## Values -/

/-- A value is written by a text in which no object has two members of one name. -/
def WrittenOnce (depth : Nat) (v : Value) (w : List Char) : Prop :=
  ∃ t, (Written depth t w ∧ t.Distinct) ∧ t.value = v

/-- The print of a value writes it. -/
def Printed (depth : Nat) (v : Value) : Prop := WrittenOnce depth v v.write

theorem printed_count (n : UInt64) : Printed depth (.number (.natural n)) :=
  ⟨.number (.ofCount n), ⟨WrittenScalar.written (write_ofCount n).symm, .number _⟩, by
    simp [number_ofCount]⟩

theorem printed_flag (b : Bool) : Printed depth (.bool b) :=
  ⟨.bool b, ⟨WrittenScalar.written (by cases b <;> rfl), .bool b⟩, rfl⟩

theorem printed_text (s : String) : Printed depth (.string s) :=
  ⟨.string s, ⟨WrittenScalar.written (t := .string s) (quoted_writeString s), .string s⟩, rfl⟩

theorem printed_array (h : ∀ v ∈ vs, Printed depth v) : Printed (depth + 1) (.array vs) := by
  have list : Enclosed '[' ']' (WrittenOnce depth) vs ('[' :: (row Value.write vs ++ [']'])) :=
    enclosed_row h '[' ']'
  obtain ⟨ts, hts, rfl⟩ := (enclosed_image_iff fun _ _ => Iff.rfl).1 list
  obtain ⟨written, distinct⟩ := hts.and fun _ _ => id
  refine ⟨.array ts, ⟨?_, .array distinct⟩, by simp [Tree.values_eq_map]⟩
  rw [Value.write, writeItems_eq]
  exact written

theorem printed_object (names : (ms.map Prod.fst).Nodup) (h : ∀ m ∈ ms, Printed depth m.2) :
    Printed (depth + 1) (.object ms) := by
  have object : Enclosed '\x7b' '\x7d' (MemberText (WrittenOnce depth)) ms
      ('\x7b' :: (row writeMember ms ++ ['\x7d'])) :=
    enclosed_row (fun m hm => memberText_writeMember (h m hm)) '\x7b' '\x7d'
  obtain ⟨ns, hns, rfl⟩ := (enclosed_image_iff (memberText_image_iff fun _ _ => Iff.rfl)).1 object
  obtain ⟨written, distinct⟩ := hns.and fun _ _ => MemberText.and
  have names : (ns.map Prod.fst).Nodup := by simpa [Function.comp_def] using names
  refine ⟨.object ns, ⟨?_, .object names distinct⟩, Tree.value_object_of_nodup names⟩
  rw [Value.write, writeMembers_eq]
  exact written

/-- The print of a value is a whole text. -/
theorem Printed.exists_isText (h : Printed greatestDepth v) :
    ∃ t, IsText v.print t ∧ t.Distinct ∧ t.value = v := by
  obtain ⟨t, ⟨written, distinct⟩, value⟩ := h
  exact ⟨t, ⟨[], v.write, [], nofun, written, nofun, by simp [Value.print]⟩, distinct, value⟩

/-! ## Forms -/

mutual

/-- How many lists and records are inside one another in a form. -/
def Format.depth : Format → Nat
  | .count | .flag | .text => 0
  | .list item => item.depth + 1
  | .record _ fields => fields.depth + 1

def Fields.depth : Fields → Nat
  | .nil => 0
  | .cons _ form rest => max form.depth rest.depth

end

mutual

theorem Format.printed : (form : Format) → form.Distinct → {depth : Nat} → form.depth ≤ depth →
    (a : form.Carrier) → Printed depth (form.toValue a)
  | .count, _, _, _, n => printed_count n
  | .flag, _, _, _, b => printed_flag b
  | .text, _, _, _, s => printed_text s
  | .list item, h, depth + 1, fits, as => by
    refine printed_array fun v hv => ?_
    obtain ⟨a, -, rfl⟩ := List.mem_map.1 hv
    exact Format.printed item h (Nat.le_of_succ_le_succ fits) a
  | .record _ fields, h, depth + 1, fits, a => by
    refine printed_object ?_ (Fields.printed fields h.2 (Nat.le_of_succ_le_succ fits) a)
    rw [fields.fst_toMembers]
    exact h.1

theorem Fields.printed : (fields : Fields) → fields.Distinct → {depth : Nat} →
    fields.depth ≤ depth → (a : fields.Carrier) → ∀ m ∈ fields.toMembers a, Printed depth m.2
  | .nil, _, _, _, _, m, hm => absurd hm List.not_mem_nil
  | .cons name form rest, h, depth, fits, (a, as), m, hm => by
    obtain ⟨here, there⟩ := Nat.max_le.1 fits
    rcases List.mem_cons.1 hm with rfl | hm
    · exact Format.printed form h.1 here a
    · exact Fields.printed rest h.2 there as m hm

end

end SchemaBoard.Json
