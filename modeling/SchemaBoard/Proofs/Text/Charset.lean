import SchemaBoard.Text.Charset

/-!
# Texts that come back from their bytes

The bytes of a text in UTF-8 are decoded to the text: each character takes the bytes that were
written for it, whatever follows. Main statements: `decode_utf8`, `decode_marked`.
-/
namespace SchemaBoard.Text

theorem decodeUtf8_cons (s : Option Sequence) (b : UInt8) (rest : List UInt8) :
    decodeUtf8 s (b :: rest)
      = (utf8Step s b.toNat).1 ++ decodeUtf8 (utf8Step s b.toNat).2 rest := rfl

theorem toNat_byte {n : Nat} (h : n < 256) : (UInt8.ofNat n).toNat = n := by
  rw [UInt8.toNat_ofNat', Nat.mod_eq_of_lt h]

/-- A byte within bounds goes on with a sequence. -/
theorem decodeUtf8_within {s : Sequence} {n : Nat} (low : s.low ≤ n) (high : n ≤ s.high)
    (byte : n < 256) (more : s.left ≠ 1) (rest : List UInt8) :
    decodeUtf8 (some s) (UInt8.ofNat n :: rest)
      = decodeUtf8 (some ⟨s.value * 64 + (n - 0x80), s.left - 1, 0x80, 0xbf⟩) rest := by
  rw [decodeUtf8_cons, toNat_byte byte]
  simp [utf8Step, low, high, more]

/-- The last byte of a sequence gives the character. -/
theorem decodeUtf8_last {s : Sequence} {n : Nat} (low : s.low ≤ n) (high : n ≤ s.high)
    (byte : n < 256) (last : s.left = 1) (rest : List UInt8) :
    decodeUtf8 (some s) (UInt8.ofNat n :: rest)
      = Char.ofNat (s.value * 64 + (n - 0x80)) :: decodeUtf8 none rest := by
  rw [decodeUtf8_cons, toNat_byte byte]
  simp [utf8Step, low, high, last]

/-- A first byte that begins a sequence. -/
theorem decodeUtf8_lead {n : Nat} {s : Sequence} (byte : n < 256)
    (lead : utf8Lead n = ([], some s)) (rest : List UInt8) :
    decodeUtf8 none (UInt8.ofNat n :: rest) = decodeUtf8 (some s) rest := by
  rw [decodeUtf8_cons, toNat_byte byte, utf8Step, lead]
  rfl

theorem utf8Lead_two {n : Nat} (h : 0xc2 ≤ n ∧ n ≤ 0xdf) :
    utf8Lead n = ([], some ⟨n - 0xc0, 1, 0x80, 0xbf⟩) := by
  rw [utf8Lead, if_neg (by omega), if_pos h]

theorem utf8Lead_three {n : Nat} (h : 0xe0 ≤ n ∧ n ≤ 0xef) :
    utf8Lead n = ([], some ⟨n - 0xe0, 2, if n = 0xe0 then 0xa0 else 0x80,
      if n = 0xed then 0x9f else 0xbf⟩) := by
  rw [utf8Lead, if_neg (by omega), if_neg (by omega), if_pos h]

theorem utf8Lead_four {n : Nat} (h : 0xf0 ≤ n ∧ n ≤ 0xf4) :
    utf8Lead n = ([], some ⟨n - 0xf0, 3, if n = 0xf0 then 0x90 else 0x80,
      if n = 0xf4 then 0x8f else 0xbf⟩) := by
  rw [utf8Lead, if_neg (by omega), if_neg (by omega), if_neg (by omega), if_pos h]

/-- A character takes its own bytes and leaves the rest. The bounds of the second byte leave out
what could be written shorter, the halves of pairs, and what is beyond the last character. -/
theorem decodeUtf8_encodeChar (c : Char) (rest : List UInt8) :
    decodeUtf8 none (String.utf8EncodeChar c ++ rest) = c :: decodeUtf8 none rest := by
  have same : Char.ofNat c.val.toNat = c := Char.ofNat_toNat c
  have valid : c.val.toNat < 0xd800 ∨ 0xdfff < c.val.toNat ∧ c.val.toNat < 0x110000 := c.valid
  delta String.utf8EncodeChar
  generalize c.val.toNat = v at same valid
  simp only
  split
  · rename_i one
    rw [List.singleton_append, decodeUtf8_cons, toNat_byte (by omega)]
    simp [utf8Step, utf8Lead, Nat.lt_succ_of_le one, same]
  split
  · rename_i one two
    simp only [List.cons_append, List.nil_append]
    rw [decodeUtf8_lead (by omega) (utf8Lead_two (by omega)),
      decodeUtf8_last (by simp only; omega) (by simp only; omega) (by omega) rfl]
    have back : (v / 64 % 32 + 192 - 0xc0) * 64 + (v % 64 + 128 - 0x80) = v := by omega
    rw [back, same]
  split
  · rename_i one two three
    simp only [List.cons_append, List.nil_append]
    rw [decodeUtf8_lead (by omega) (utf8Lead_three (by omega)),
      decodeUtf8_within (by simp only; split <;> omega) (by simp only; split <;> omega) (by omega)
        (by simp),
      decodeUtf8_last (by simp only; omega) (by simp only; omega) (by omega) rfl]
    have back : ((v / 4096 % 16 + 224 - 0xe0) * 64 + (v / 64 % 64 + 128 - 0x80)) * 64
        + (v % 64 + 128 - 0x80) = v := by omega
    rw [back, same]
  · rename_i one two three
    simp only [List.cons_append, List.nil_append]
    rw [decodeUtf8_lead (by omega) (utf8Lead_four (by omega)),
      decodeUtf8_within (by simp only; split <;> omega) (by simp only; split <;> omega) (by omega)
        (by simp),
      decodeUtf8_within (by simp only; omega) (by simp only; omega) (by omega) (by simp),
      decodeUtf8_last (by simp only; omega) (by simp only; omega) (by omega) rfl]
    have back : (((v / 262144 % 8 + 240 - 0xf0) * 64 + (v / 4096 % 64 + 128 - 0x80)) * 64
        + (v / 64 % 64 + 128 - 0x80)) * 64 + (v % 64 + 128 - 0x80) = v := by omega
    rw [back, same]

theorem decodeUtf8_encode (cs : List Char) :
    decodeUtf8 none (cs.flatMap String.utf8EncodeChar) = cs := by
  induction cs with
  | nil => rfl
  | cons c cs ih => rw [List.flatMap_cons, decodeUtf8_encodeChar, ih]

/-! ## Marks -/

/-- The mark with which a text may begin. -/
def mark : Char := '\ufeff'

/-- The bytes of a text in UTF-8. -/
def utf8Bytes (s : String) : List UInt8 := s.toUTF8.data.toList

theorem utf8Bytes_eq (s : String) : utf8Bytes s = s.toList.flatMap String.utf8EncodeChar :=
  calc utf8Bytes s
    _ = s.toList.utf8Encode.data.toList := congrArg (·.data.toList) String.utf8Encode_toList.symm
    _ = s.toList.flatMap String.utf8EncodeChar := List.toList_data_toByteArray

/-- Only the mark itself has the bytes of a mark: the bytes of a character are decoded to it, and no
character has the bytes of the other two marks. -/
theorem ofMark?_encodeChar {c : Char} (h : c ≠ mark) (rest : List UInt8) :
    ofMark? (String.utf8EncodeChar c ++ rest) = none := by
  have back := decodeUtf8_encodeChar c rest
  have first : (String.utf8EncodeChar replacement ++ rest).head? = some 0xef := rfl
  unfold ofMark?
  split
  · rename_i r bytes
    rw [bytes] at back
    exact absurd (List.cons.inj back).1.symm h
  · rename_i r bytes
    rw [bytes] at back
    obtain rfl : replacement = c := (List.cons.inj back).1
    rw [bytes] at first
    exact absurd (Option.some.inj first) (by decide)
  · rename_i r bytes
    rw [bytes] at back
    obtain rfl : replacement = c := (List.cons.inj back).1
    rw [bytes] at first
    exact absurd (Option.some.inj first) (by decide)
  · rfl

/-- A text that does not begin with a mark comes back from its bytes. -/
theorem decode_utf8 {s : String} (h : s.toList.head? ≠ some mark) :
    Charset.utf8.decode (utf8Bytes s) = s := by
  have unmarked : ofMark? (utf8Bytes s) = none := by
    rw [utf8Bytes_eq]
    cases hs : s.toList with
    | nil => rfl
    | cons c cs =>
      rw [hs, List.head?_cons] at h
      exact ofMark?_encodeChar (fun hc => h (congrArg some hc)) _
  rw [Charset.decode, unmarked]
  simp only [Charset.decodeAll, utf8Bytes_eq, decodeUtf8_encode, String.ofList_toList]

/-- Behind a mark a text comes back from its bytes, whatever the encoding was said to be. -/
theorem decode_marked (c : Charset) (s : String) :
    c.decode (0xef :: 0xbb :: 0xbf :: utf8Bytes s) = s := by
  simp only [Charset.decode, ofMark?, Charset.decodeAll, utf8Bytes_eq, decodeUtf8_encode,
    String.ofList_toList]

end SchemaBoard.Text
