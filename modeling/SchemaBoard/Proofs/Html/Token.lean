import SchemaBoard.Html.Scan
import SchemaBoard.Proofs.Html.Part

/-!
# The tokens of clean markup

A text and a tag that were written down are read as what they were. Escaping leaves no character in
them that could end them early, and the references that it puts in are decoded to just the
characters that they stand for. Main statements: `next?_escapeText`, `next?_openingTag`,
`next?_closingTag`.
-/
namespace SchemaBoard.Html

/-- A character that is read as what it is: none that stands for nothing, for another one, or for
the order of bytes. -/
def IsPlain (c : Char) : Prop := c ≠ '\x00' ∧ c ≠ '\r' ∧ c ≠ '\ufeff'

instance (c : Char) : Decidable (IsPlain c) := inferInstanceAs (Decidable (_ ∧ _))

/-- A given text is gone through. Without this all characters that there are would be. -/
theorem isPlain_of_all {cs : List Char} (h : cs.all (IsPlain ·) = true) : ∀ c ∈ cs, IsPlain c :=
  fun c hc => of_decide_eq_true (List.all_eq_true.1 h c hc)

namespace Markup

theorem isPlain_escapeTextChar {c : Char} (h : IsPlain c) :
    ∀ d ∈ escapeTextChar c, IsPlain d := by
  unfold escapeTextChar
  split
  · exact isPlain_of_all (by decide)
  split
  · exact isPlain_of_all (by decide)
  split
  · exact isPlain_of_all (by decide)
  split
  · exact isPlain_of_all (by decide)
  · simpa using h

theorem isPlain_escapeValueChar {c : Char} (h : IsPlain c) :
    ∀ d ∈ escapeValueChar c, IsPlain d := by
  unfold escapeValueChar
  split
  · exact isPlain_of_all (by decide)
  · exact isPlain_escapeTextChar h

theorem isPlain_escapeText {cs : List Char} (h : ∀ c ∈ cs, IsPlain c) :
    ∀ d ∈ escapeText cs, IsPlain d := by
  intro d hd
  obtain ⟨c, hc, hd⟩ := List.mem_flatMap.1 hd
  exact isPlain_escapeTextChar (h c hc) d hd

theorem isPlain_escapeValue {cs : List Char} (h : ∀ c ∈ cs, IsPlain c) :
    ∀ d ∈ escapeValue cs, IsPlain d := by
  intro d hd
  obtain ⟨c, hc, hd⟩ := List.mem_flatMap.1 hd
  exact isPlain_escapeValueChar (h c hc) d hd

end Markup

/-! ## References -/

namespace Reference

/-- A name is read as a whole if a semicolon follows it. -/
theorem nominal_of_named {name : List Char} {text : String}
    (letters : ∀ c ∈ name, c.isAlphanum = true) (known : named? name = some text)
    (inValue : Bool) (cs : List Char) :
    nominal inValue (name ++ ';' :: cs) = some (text.toList, name.length + 1) := by
  have run : (name ++ ';' :: cs).takeWhile Char.isAlphanum = name := by
    rw [List.takeWhile_append_of_pos letters, List.takeWhile_cons_of_neg (by decide),
      List.append_nil]
  simp [nominal, run, known]

/-- The reference of a single character is decoded to it. -/
theorem decode_of_named (name : List Char) {c : Char}
    (letters : ∀ c ∈ name, c.isAlphanum = true) (known : named? name = some (String.ofList [c]))
    (inValue : Bool) (cs : List Char) :
    decode inValue ('&' :: (name ++ ';' :: cs)) = c :: decode inValue cs := by
  have here : read inValue (name ++ ';' :: cs) = some ([c], name.length + 1) := by
    have whole := nominal_of_named letters known inValue cs
    rw [String.toList_ofList] at whole
    rw [← whole]
    cases name with
    | nil => cases known
    | cons c name =>
      have hash : c ≠ '#' := by
        rintro rfl
        exact absurd (letters '#' List.mem_cons_self) (by decide)
      simp [read, hash]
  have left : (name ++ ';' :: cs).drop (name.length + 1) = cs := by
    rw [← List.drop_drop, List.drop_left]
    rfl
  rw [decode, if_pos rfl, here]
  simp only [left, List.cons_append, List.nil_append]

theorem decode_escapeTextChar (inValue : Bool) (c : Char) (cs : List Char) :
    decode inValue (Markup.escapeTextChar c ++ cs) = c :: decode inValue cs := by
  unfold Markup.escapeTextChar
  split
  · rename_i amp
    subst amp
    exact decode_of_named ['a', 'm', 'p'] (List.all_eq_true.1 rfl) (by decide) inValue cs
  split
  · rename_i lt
    subst lt
    exact decode_of_named ['l', 't'] (List.all_eq_true.1 rfl) (by decide) inValue cs
  split
  · rename_i gt
    subst gt
    exact decode_of_named ['g', 't'] (List.all_eq_true.1 rfl) (by decide) inValue cs
  split
  · rename_i nbsp
    subst nbsp
    exact decode_of_named ['n', 'b', 's', 'p'] (List.all_eq_true.1 rfl) (by decide) inValue cs
  · rename_i amp _ _ _
    exact decode_cons inValue amp cs

theorem decode_escapeValueChar (inValue : Bool) (c : Char) (cs : List Char) :
    decode inValue (Markup.escapeValueChar c ++ cs) = c :: decode inValue cs := by
  unfold Markup.escapeValueChar
  split
  · rename_i quot
    subst quot
    exact decode_of_named ['q', 'u', 'o', 't'] (List.all_eq_true.1 rfl) (by decide) inValue cs
  · exact decode_escapeTextChar inValue c cs

theorem decode_escapeText (inValue : Bool) (cs : List Char) :
    decode inValue (Markup.escapeText cs) = cs := by
  induction cs with
  | nil => exact decode_nil inValue
  | cons c cs ih =>
    rw [Markup.escapeText, List.flatMap_cons, decode_escapeTextChar]
    exact congrArg _ ih

theorem decode_escapeValue (inValue : Bool) (cs : List Char) :
    decode inValue (Markup.escapeValue cs) = cs := by
  induction cs with
  | nil => exact decode_nil inValue
  | cons c cs ih =>
    rw [Markup.escapeValue, List.flatMap_cons, decode_escapeValueChar]
    exact congrArg _ ih

end Reference

namespace Scan

/-! ## Texts -/

/-- What a text ends at: the start of a tag, or the end of all. -/
def IsTextEnd (cs : List Char) : Prop := cs = [] ∨ ∃ rest, cs = '<' :: rest

/-- What is written for a text is read up to its end. -/
theorem next?_escapeText {cs rest : List Char} (held : cs ≠ []) (stop : IsTextEnd rest)
    (foreign : Bool) :
    next? .data foreign (Markup.escapeText cs ++ rest) = some (.text cs, rest) := by
  have free : ∀ c ∈ Markup.escapeText cs, decide (c ≠ '<') = true := by
    intro c hc
    have lt := (Markup.angle_notMem_escapeText cs).1
    exact decide_eq_true fun he : c = '<' => lt (he ▸ hc)
  have taken : (Markup.escapeText cs ++ rest).takeWhile (· ≠ '<') = Markup.escapeText cs := by
    rw [List.takeWhile_append_of_pos free]
    rcases stop with rfl | ⟨more, rfl⟩ <;> simp
  have dropped : (Markup.escapeText cs ++ rest).dropWhile (· ≠ '<') = rest := by
    rw [List.dropWhile_append_of_pos free]
    rcases stop with rfl | ⟨more, rfl⟩ <;> simp
  have back := Reference.decode_escapeText false cs
  cases hw : Markup.escapeText cs with
  | nil =>
    rw [hw, Reference.decode_nil] at back
    exact absurd back.symm held
  | cons c r =>
    have hc : c ≠ '<' := by simpa using free c (by simp [hw])
    rw [hw, List.cons_append] at taken dropped
    rw [List.dropWhile_cons_of_pos (by simpa using hc)] at dropped
    simp only [List.cons_append, next?, if_neg hc, taken, dropped]
    rw [← hw, back]

/-! ## Tags -/

/-- A name that is read as it is written. -/
structure IsTagName (name : String) : Prop where
  letter : ∃ c cs, name.toList = c :: cs ∧ c.isAlpha = true
  unended : ∀ c ∈ name.toList, (!endsTagName c) = true
  normal : normalName name.toList = name

theorem isTagName_kept (tag : KeptTag) : IsTagName tag.name := by
  cases tag <;> exact ⟨⟨_, _, rfl, by decide⟩, List.all_eq_true.1 (by decide), by decide⟩

theorem isTagName_lineBreak : IsTagName "br" :=
  ⟨⟨_, _, rfl, by decide⟩, List.all_eq_true.1 (by decide), by decide⟩

/-- The attributes of a tag with this class. -/
def labelling (label : Option String) : List Attribute :=
  (label.map (Attribute.mk "class")).toList

theorem attributes_of_ending {found : List Attribute} {cs rest : List Char} {closed : Bool}
    (h : piece (cs.dropWhile isBlank) = .ending closed rest) :
    attributes found cs = some (found, closed, rest) := by
  rw [attributes]
  split <;> simp_all

theorem attributes_of_attribute {found : List Attribute} {cs rest : List Char}
    {name value : String} (h : piece (cs.dropWhile isBlank) = .attribute name value rest) :
    attributes found cs = attributes (addAttribute found name value) rest := by
  rw [attributes]
  split <;> simp_all

/-- A value is read up to the quote behind it. -/
theorem attributeValue_escapeValue (cs rest : List Char) :
    attributeValue ('\x22' :: (Markup.escapeValue cs ++ '\x22' :: rest))
      = some (Markup.escapeValue cs, rest) := by
  have free : ∀ c ∈ Markup.escapeValue cs, decide (c ≠ '\x22') = true := by
    intro c hc
    have quot := (Markup.quotable_escapeValue cs).1
    exact decide_eq_true fun he : c = '\x22' => quot (he ▸ hc)
  have blank : ('\x22' :: (Markup.escapeValue cs ++ '\x22' :: rest)).dropWhile isBlank
      = '\x22' :: (Markup.escapeValue cs ++ '\x22' :: rest) := rfl
  have taken : (Markup.escapeValue cs ++ '\x22' :: rest).takeWhile (· ≠ '\x22')
      = Markup.escapeValue cs := by
    rw [List.takeWhile_append_of_pos free]
    simp
  have dropped : (Markup.escapeValue cs ++ '\x22' :: rest).dropWhile (· ≠ '\x22')
      = '\x22' :: rest := by
    rw [List.dropWhile_append_of_pos free]
    simp
  rw [attributeValue, blank]
  simp only [taken, dropped]

theorem valueText_escapeValue {cs : List Char} (plain : ∀ c ∈ cs, IsPlain c) :
    valueText (Markup.escapeValue cs) = String.ofList cs := by
  have kept : ∀ c ∈ Markup.escapeValue cs, replaceNul c = id c := fun c hc =>
    if_neg (Markup.isPlain_escapeValue plain c hc).1
  rw [valueText, List.map_congr_left kept, List.map_id, Reference.decode_escapeValue]

/-- What stands behind the name of an opening tag with this class. -/
def tagEnd : Option String → List Char
  | none => ['>']
  | some l => [' ', 'c', 'l', 'a', 's', 's', '=', '\x22'] ++
      (Markup.escapeValue l.toList ++ ['\x22', '>'])

theorem openingTag_eq (name : String) (label : Option String) :
    Markup.openingTag name label = '<' :: (name.toList ++ tagEnd label) := by
  cases label <;> simp [Markup.openingTag, tagEnd]

theorem attributes_tagEnd {label : Option String}
    (plain : ∀ l ∈ label, ∀ c ∈ l.toList, IsPlain c) (rest : List Char) :
    attributes [] (tagEnd label ++ rest) = some (labelling label, false, rest) := by
  cases label with
  | none => exact attributes_of_ending rfl
  | some l =>
    let value : List Char := '\x22' :: (Markup.escapeValue l.toList ++ '\x22' :: '>' :: rest)
    have shape : tagEnd (some l) ++ rest
        = ' ' :: 'c' :: 'l' :: 'a' :: 's' :: 's' :: '=' :: value := by
      simp [tagEnd, value]
    have key : piece ((tagEnd (some l) ++ rest).dropWhile isBlank)
        = named "class" ('=' :: value) := by
      rw [shape]
      rfl
    have read : named "class" ('=' :: value) = .attribute "class" l ('>' :: rest) := by
      have sign : ('=' :: value).dropWhile isBlank = '=' :: value := rfl
      have text := valueText_escapeValue (plain l rfl)
      rw [String.ofList_toList] at text
      rw [named, sign]
      simp only [value, attributeValue_escapeValue, text]
    rw [attributes_of_attribute (key.trans read)]
    exact attributes_of_ending rfl

/-- A tag is read from its name to its end. -/
theorem tag_of_attributes {name : String} (n : IsTagName name) (opens : Bool) {closed : Bool}
    {found : List Attribute} {cs rest : List Char}
    (stop : ∃ c more, cs = c :: more ∧ endsTagName c = true)
    (h : attributes [] cs = some (found, closed, rest)) :
    tag opens (name.toList ++ cs)
      = (if opens then .opening ⟨name, found, closed⟩ else .closing name, rest) := by
  obtain ⟨d, more, rfl, ends⟩ := stop
  have taken : (name.toList ++ d :: more).takeWhile (fun c => !endsTagName c) = name.toList := by
    rw [List.takeWhile_append_of_pos n.unended]
    simp [ends]
  have dropped : (name.toList ++ d :: more).dropWhile (fun c => !endsTagName c) = d :: more := by
    rw [List.dropWhile_append_of_pos n.unended]
    simp [ends]
  simp only [tag, taken, dropped, h, n.normal]

theorem markup_of_isAlpha {c : Char} (letter : c.isAlpha = true) (foreign : Bool) (cs : List Char) :
    markup foreign (c :: cs) = tag true (c :: cs) := by
  have other {d : Char} (sign : d.isAlpha = false) : c ≠ d := by
    rintro rfl
    exact Bool.noConfusion (sign.symm.trans letter)
  have bang : c ≠ '!' := other (by decide)
  have question : c ≠ '?' := other (by decide)
  have stroke : c ≠ '/' := other (by decide)
  rw [markup, if_pos letter]
  all_goals simp [bang, question, stroke]

theorem next?_openingTag {name : String} (n : IsTagName name) {label : Option String}
    (plain : ∀ l ∈ label, ∀ c ∈ l.toList, IsPlain c) (foreign : Bool) (rest : List Char) :
    next? .data foreign (Markup.openingTag name label ++ rest)
      = some (.opening ⟨name, labelling label, false⟩, rest) := by
  have stop : ∃ c more, tagEnd label ++ rest = c :: more ∧ endsTagName c = true := by
    cases label <;> exact ⟨_, _, rfl, by decide⟩
  have whole := tag_of_attributes n true stop (attributes_tagEnd plain rest)
  obtain ⟨c, cs, hn, letter⟩ := n.letter
  rw [openingTag_eq, List.cons_append, List.append_assoc]
  rw [hn, List.cons_append] at whole ⊢
  simp only [next?, if_true, markup_of_isAlpha letter, whole]

theorem next?_closingTag {name : String} (n : IsTagName name) (foreign : Bool) (rest : List Char) :
    next? .data foreign (Markup.closingTag name ++ rest) = some (.closing name, rest) := by
  have stop : ∃ c more, '>' :: rest = c :: more ∧ endsTagName c = true :=
    ⟨'>', rest, rfl, by decide⟩
  have whole := tag_of_attributes n false stop (attributes_of_ending rfl)
  have shape : Markup.closingTag name ++ rest = '<' :: '/' :: (name.toList ++ '>' :: rest) := by
    simp [Markup.closingTag]
  obtain ⟨c, cs, hn, letter⟩ := n.letter
  have angle : c ≠ '>' := by
    rintro rfl
    exact absurd letter (by decide)
  rw [shape]
  rw [hn, List.cons_append] at whole ⊢
  simp [next?, markup, letter, whole]

end Scan
end SchemaBoard.Html
