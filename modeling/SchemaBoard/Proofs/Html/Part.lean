import SchemaBoard.Html.Markup

/-!
# Harmless markup

Markup written down is a sequence of parts: texts and tags. A part is allowed if it is a text
without angle brackets, or a tag of one of a few names whose attributes are of a few names, with
values that end at the quote they are written in. Main statement: every less-than sign of a sequence
of allowed parts starts one of its tags (`exists_tag_of_lt`).
-/
namespace SchemaBoard.Html

/-- A part of markup as it is written; values of attributes stand as they are between quotes. -/
inductive Part where
  | text (chars : List Char)
  | opening (name : String) (attributes : List (String × List Char))
  | closing (name : String)

/-- The names that tags of a page may have. -/
def tagNames : List String :=
  ["div", "table", "thead", "tbody", "tr", "th", "td", "button", "span", "pre", "code", "br"]

/-- The names that attributes of a page may have. -/
def attributeNames : List String :=
  ["class", "data-model-id", "data-mode", "data-span", "data-action"]

namespace Part

def writeAttribute (a : String × List Char) : List Char :=
  ' ' :: a.1.toList ++ ['=', '\x22'] ++ a.2 ++ ['\x22']

def write : Part → List Char
  | .text chars => chars
  | .opening name attributes =>
    '<' :: (name.toList ++ attributes.flatMap writeAttribute ++ ['>'])
  | .closing name => '<' :: ('/' :: name.toList ++ ['>'])

def isTag : Part → Bool
  | .text _ => false
  | .opening _ _ => true
  | .closing _ => true

/-- A value that ends at its closing quote, and in which no tag seems to start or to end. -/
def IsQuotable (value : List Char) : Prop := '\x22' ∉ value ∧ '<' ∉ value ∧ '>' ∉ value

def IsAllowed : Part → Prop
  | .text chars => '<' ∉ chars ∧ '>' ∉ chars
  | .opening name attributes =>
    name ∈ tagNames ∧ ∀ a ∈ attributes, a.1 ∈ attributeNames ∧ IsQuotable a.2
  | .closing name => name ∈ tagNames

theorem lt_notMem_tagName {name : String} (h : name ∈ tagNames) : '<' ∉ name.toList := by
  have all : ∀ n ∈ tagNames, '<' ∉ n.toList := by decide
  exact all name h

theorem lt_notMem_attributeName {name : String} (h : name ∈ attributeNames) :
    '<' ∉ name.toList := by
  have all : ∀ n ∈ attributeNames, '<' ∉ n.toList := by decide
  exact all name h

theorem lt_notMem_writeAttribute {a : String × List Char} (hn : a.1 ∈ attributeNames)
    (hv : IsQuotable a.2) : '<' ∉ writeAttribute a := by
  simp [writeAttribute, lt_notMem_attributeName hn, hv.2.1]

/-- The only less-than sign of a part is that at the start of a tag. -/
theorem write_eq_cons_of_lt_mem {p : Part} (h : p.IsAllowed) (hm : '<' ∈ p.write) :
    p.isTag = true ∧ ∃ body, p.write = '<' :: body ∧ '<' ∉ body := by
  cases p with
  | text chars => exact absurd hm h.1
  | opening name attributes =>
    refine ⟨rfl, _, rfl, ?_⟩
    have hattributes : '<' ∉ attributes.flatMap writeAttribute := by
      intro hm
      obtain ⟨a, ha, hc⟩ := List.mem_flatMap.1 hm
      exact lt_notMem_writeAttribute (h.2 a ha).1 (h.2 a ha).2 hc
    simp [lt_notMem_tagName h.1, hattributes]
  | closing name =>
    refine ⟨rfl, _, rfl, ?_⟩
    simp [lt_notMem_tagName h]

/-- Every less-than sign starts a tag. -/
theorem exists_tag_of_lt {parts : List Part} (h : ∀ p ∈ parts, p.IsAllowed)
    {before after : List Char} (e : parts.flatMap write = before ++ '<' :: after) :
    ∃ p ∈ parts, p.isTag = true ∧ p.write <+: '<' :: after := by
  induction parts generalizing before with
  | nil => simp at e
  | cons p rest ih =>
    have later {before : List Char} (e : rest.flatMap write = before ++ '<' :: after) :
        ∃ q ∈ p :: rest, q.isTag = true ∧ q.write <+: '<' :: after := by
      obtain ⟨q, hq, ht, hp⟩ := ih (fun q hq => h q (List.mem_cons_of_mem p hq)) e
      exact ⟨q, List.mem_cons_of_mem p hq, ht, hp⟩
    rw [List.flatMap_cons] at e
    rcases List.append_eq_append_iff.1 e with ⟨c, -, hc⟩ | ⟨c, hw, hc⟩
    · exact later hc
    · -- The sign lies in the first part, or right behind it.
      cases c with
      | nil => exact @later [] hc.symm
      | cons d c =>
        obtain ⟨rfl, hc⟩ := List.cons.inj hc
        have hm : '<' ∈ p.write := by simp [hw]
        obtain ⟨ht, body, hb, hn⟩ := write_eq_cons_of_lt_mem (h p List.mem_cons_self) hm
        have hbefore : before = [] := by
          cases before with
          | nil => rfl
          | cons b before =>
            rw [hb, List.cons_append] at hw
            exact absurd (by simp [(List.cons.inj hw).2]) hn
        rw [hbefore, List.nil_append] at hw
        refine ⟨p, List.mem_cons_self, ht, ?_⟩
        rw [hw, hc]
        exact ⟨rest.flatMap write, rfl⟩

end Part

/-- Markup that is a sequence of allowed parts. -/
def Harmless (cs : List Char) : Prop :=
  ∃ parts : List Part, (∀ p ∈ parts, p.IsAllowed) ∧ cs = parts.flatMap Part.write

namespace Harmless

theorem nil : Harmless [] := ⟨[], by simp, rfl⟩

theorem part {p : Part} (h : p.IsAllowed) : Harmless p.write :=
  ⟨[p], by simpa using h, by simp⟩

theorem append {a b : List Char} (ha : Harmless a) (hb : Harmless b) : Harmless (a ++ b) := by
  obtain ⟨ps, hp, rfl⟩ := ha
  obtain ⟨qs, hq, rfl⟩ := hb
  refine ⟨ps ++ qs, fun p h => ?_, List.flatMap_append.symm⟩
  rcases List.mem_append.1 h with h | h
  · exact hp p h
  · exact hq p h

theorem flatMap {α : Type} {f : α → List Char} {xs : List α} (h : ∀ x ∈ xs, Harmless (f x)) :
    Harmless (xs.flatMap f) := by
  induction xs with
  | nil => exact nil
  | cons x rest ih =>
    exact (h x List.mem_cons_self).append (ih fun y hy => h y (List.mem_cons_of_mem x hy))

end Harmless

namespace Markup

theorem angle_notMem_escapeTextChar (c : Char) :
    '<' ∉ escapeTextChar c ∧ '>' ∉ escapeTextChar c := by
  unfold escapeTextChar
  split
  · decide
  split
  · decide
  split
  · decide
  split
  · decide
  · rename_i hlt hgt _
    exact ⟨by simpa using Ne.symm hlt, by simpa using Ne.symm hgt⟩

theorem quotable_escapeValueChar (c : Char) : Part.IsQuotable (escapeValueChar c) := by
  unfold escapeValueChar
  split
  · exact ⟨by decide, by decide, by decide⟩
  · rename_i hq
    refine ⟨?_, angle_notMem_escapeTextChar c⟩
    unfold escapeTextChar
    split
    · decide
    split
    · decide
    split
    · decide
    split
    · decide
    · simpa using Ne.symm hq

theorem angle_notMem_escapeText (cs : List Char) : '<' ∉ escapeText cs ∧ '>' ∉ escapeText cs := by
  simp [escapeText, angle_notMem_escapeTextChar]

theorem quotable_escapeValue (cs : List Char) : Part.IsQuotable (escapeValue cs) := by
  have h := quotable_escapeValueChar
  refine ⟨?_, ?_, ?_⟩
  · simp [escapeValue, (h _).1]
  · simp [escapeValue, (h _).2.1]
  · simp [escapeValue, (h _).2.2]

end Markup
end SchemaBoard.Html
