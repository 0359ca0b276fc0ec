import SchemaBoard.Html.Clean
import SchemaBoard.Proofs.Html.Part

/-!
# Clean markup is well nested

A reading of a text takes it for a sequence of parts of clean markup: texts without angle brackets,
the tags of four kinds of elements, and line breaks, with at most a class each. Going through the
tags with a list of the elements that are open, every closing tag closes the innermost one, and none
is left open at the end. A text fixes the tags of its readings, since angle brackets stand nowhere
but at both ends of a tag. Main statement: `clean_is_wellNested`.
-/
namespace SchemaBoard.Html

namespace Part

/-- The elements of clean markup. They have a content, and so a closing tag. -/
def elementNames : List String := ["div", "span", "pre", "code"]

/-- At most one attribute, a class whose value ends at the quote that it is written in. -/
def IsLabelling (attributes : List (String × List Char)) : Prop :=
  attributes = [] ∨ ∃ value, attributes = [("class", value)] ∧ IsQuotable value

/-- A part of clean markup. -/
def IsClean : Part → Prop
  | .text chars => '<' ∉ chars ∧ '>' ∉ chars
  | .opening name attributes => (name = "br" ∨ name ∈ elementNames) ∧ IsLabelling attributes
  | .closing name => name ∈ elementNames

theorem mem_tagNames_of_mem_elementNames {name : String} (h : name ∈ elementNames) :
    name ∈ tagNames := by
  have all : ∀ n ∈ elementNames, n ∈ tagNames := by decide
  exact all name h

theorem IsClean.isAllowed {p : Part} (h : p.IsClean) : p.IsAllowed := by
  cases p with
  | text chars => exact h
  | opening name attributes =>
    obtain ⟨hn, ha⟩ := h
    constructor
    · rcases hn with rfl | hn
      · decide
      · exact mem_tagNames_of_mem_elementNames hn
    · intro a hm
      rcases ha with rfl | ⟨value, rfl, hv⟩
      · cases hm
      · obtain rfl := List.mem_singleton.1 hm
        exact ⟨by simp [attributeNames], hv⟩
  | closing name => exact mem_tagNames_of_mem_elementNames h

/-- Go through parts with the names of the elements that are open, the innermost one first. None is
left if a closing tag does not close the innermost one. -/
def nest (names : List String) : List Part → Option (List String)
  | [] => some names
  | .text _ :: rest => nest names rest
  | .opening name _ :: rest => nest (if name = "br" then names else name :: names) rest
  | .closing name :: rest =>
    match names with
    | [] => none
    | innermost :: outer => if innermost = name then nest outer rest else none

theorem nest_filter_isTag (names : List String) (parts : List Part) :
    nest names (parts.filter isTag) = nest names parts := by
  induction parts generalizing names with
  | nil => rfl
  | cons p rest ih =>
    cases p with
    | text chars =>
      rw [List.filter_cons_of_neg (by simp [isTag])]
      exact ih names
    | opening name attributes =>
      rw [List.filter_cons_of_pos rfl]
      exact ih _
    | closing name =>
      rw [List.filter_cons_of_pos rfl]
      cases names with
      | nil => rfl
      | cons innermost outer => simp [nest, ih]

/-! ## The tags of a text -/

/-- What stands between the angle brackets of a tag. -/
def inside : Part → List Char
  | .text _ => []
  | .opening name attributes => name.toList ++ attributes.flatMap writeAttribute
  | .closing name => '/' :: name.toList

/-- What follows each less-than sign of a text, up to the next greater-than sign. -/
def tagTexts : List Char → List (List Char)
  | [] => []
  | c :: cs => if c = '<' then cs.takeWhile (· ≠ '>') :: tagTexts cs else tagTexts cs

theorem tagTexts_append_of_notMem {cs : List Char} (h : '<' ∉ cs) (rest : List Char) :
    tagTexts (cs ++ rest) = tagTexts rest := by
  induction cs with
  | nil => rfl
  | cons c cs ih =>
    obtain ⟨hc, hcs⟩ := not_or.1 (mt List.mem_cons.2 h)
    rw [List.cons_append, tagTexts, if_neg (Ne.symm hc), ih hcs]

theorem write_of_isTag {p : Part} (h : p.isTag = true) : p.write = '<' :: (p.inside ++ ['>']) := by
  cases p with
  | text chars => cases h
  | opening name attributes => rfl
  | closing name => rfl

theorem gt_notMem_inside {p : Part} (h : p.IsClean) : '>' ∉ p.inside := by
  have names : ∀ n ∈ "br" :: elementNames, '>' ∉ n.toList := by decide
  cases p with
  | text chars => exact List.not_mem_nil
  | opening name attributes =>
    obtain ⟨hn, ha⟩ := h
    have free := names name (List.mem_cons.2 hn)
    rcases ha with rfl | ⟨value, rfl, hv⟩
    · simpa [inside] using free
    · simp [inside, writeAttribute, free, hv.2.2]
  | closing name => simpa [inside] using names name (List.mem_cons_of_mem _ h)

theorem lt_notMem_inside {p : Part} (h : p.IsClean) (ht : p.isTag = true) : '<' ∉ p.inside := by
  intro hm
  have written := write_of_isTag ht
  obtain ⟨-, body, hb, free⟩ := write_eq_cons_of_lt_mem h.isAllowed (by simp [written])
  rw [written] at hb
  exact free ((List.cons.inj hb).2 ▸ List.mem_append_left _ hm)

/-- A tag is seen as it is written; a text shows nothing of the kind. -/
theorem tagTexts_write {p : Part} (h : p.IsClean) (rest : List Char) :
    tagTexts (p.write ++ rest) = ([p].filter isTag).map inside ++ tagTexts rest := by
  cases ht : p.isTag with
  | false =>
    cases p with
    | text chars => simpa [isTag, write] using tagTexts_append_of_notMem h.1 rest
    | _ => cases ht
  | true =>
    have lt := lt_notMem_inside h ht
    have gt : ∀ c ∈ p.inside, decide (c ≠ '>') = true := by
      intro c hc
      exact decide_eq_true fun he => gt_notMem_inside h (he ▸ hc)
    have behind : tagTexts (p.inside ++ ('>' :: rest)) = tagTexts rest := by
      rw [tagTexts_append_of_notMem lt, tagTexts, if_neg (by decide)]
    have up_to : (p.inside ++ ('>' :: rest)).takeWhile (· ≠ '>') = p.inside := by
      rw [List.takeWhile_append_of_pos gt]
      simp
    have written : p.write ++ rest = '<' :: (p.inside ++ ('>' :: rest)) := by
      simp [write_of_isTag ht]
    rw [written, tagTexts, if_pos rfl, behind, up_to]
    simp [ht]

theorem tagTexts_flatMap_write {parts : List Part} (h : ∀ p ∈ parts, p.IsClean) :
    tagTexts (parts.flatMap write) = (parts.filter isTag).map inside := by
  induction parts with
  | nil => rfl
  | cons p rest ih =>
    rw [List.flatMap_cons, tagTexts_write (h p List.mem_cons_self),
      ih fun q hq => h q (List.mem_cons_of_mem p hq), ← List.map_append, ← List.filter_append,
      List.singleton_append]

/-! ## One reading -/

theorem space_notMem {name : String} (h : name = "br" ∨ name ∈ elementNames) :
    ∀ c ∈ name.toList, decide (c ≠ ' ') = true := by
  have names : ∀ n ∈ "br" :: elementNames, ' ' ∉ n.toList := by decide
  intro c hc
  exact decide_eq_true fun he => names name (List.mem_cons.2 h) (he ▸ hc)

/-- The name of an opening tag ends before its class, if it has one. -/
theorem takeWhile_inside {name : String} {attributes : List (String × List Char)}
    (h : (opening name attributes).IsClean) :
    (opening name attributes).inside.takeWhile (· ≠ ' ') = name.toList := by
  obtain ⟨hn, ha⟩ := h
  rw [inside, List.takeWhile_append_of_pos (space_notMem hn)]
  rcases ha with rfl | ⟨value, rfl, -⟩
  · simp
  · simp [writeAttribute]

theorem opening_inj {n m : String} {as bs : List (String × List Char)}
    (hn : (opening n as).IsClean) (hm : (opening m bs).IsClean)
    (e : (opening n as).inside = (opening m bs).inside) : opening n as = opening m bs := by
  obtain rfl : n = m := by
    apply String.toList_injective
    rw [← takeWhile_inside hn, e, takeWhile_inside hm]
  have same : as.flatMap writeAttribute = bs.flatMap writeAttribute := List.append_cancel_left e
  rcases hn.2 with rfl | ⟨v, rfl, -⟩ <;> rcases hm.2 with rfl | ⟨w, rfl, -⟩
  · rfl
  · simp [writeAttribute] at same
  · simp [writeAttribute] at same
  · have values : v = w := by simpa [writeAttribute] using same
    rw [values]

theorem head_ne_slash {name : String} (h : name = "br" ∨ name ∈ elementNames)
    (cs ds : List Char) : name.toList ++ cs ≠ '/' :: ds := by
  have names : ∀ n ∈ "br" :: elementNames, n.toList.head? ≠ some '/' ∧ n.toList ≠ [] := by decide
  obtain ⟨head, nonempty⟩ := names name (List.mem_cons.2 h)
  obtain ⟨c, rest, hc⟩ := List.exists_cons_of_ne_nil nonempty
  rw [hc] at head ⊢
  intro e
  exact head (by simp [(List.cons.inj e).1])

/-- A tag of clean markup is known by what stands between its angle brackets. -/
theorem inside_inj {p q : Part} (hp : p.IsClean) (hq : q.IsClean) (htp : p.isTag = true)
    (htq : q.isTag = true) (e : p.inside = q.inside) : p = q := by
  cases p with
  | text chars => cases htp
  | opening n as =>
    cases q with
    | text chars => cases htq
    | opening m bs => exact opening_inj hp hq e
    | closing m => exact absurd e (head_ne_slash hp.1 _ _)
  | closing n =>
    cases q with
    | text chars => cases htq
    | opening m bs => exact absurd e.symm (head_ne_slash hq.1 _ _)
    | closing m =>
      obtain rfl : n = m := String.toList_injective (List.cons.inj e).2
      rfl

theorem eq_of_map_inside_eq {ps qs : List Part} (hp : ∀ p ∈ ps, p.IsClean ∧ p.isTag = true)
    (hq : ∀ q ∈ qs, q.IsClean ∧ q.isTag = true) (e : ps.map inside = qs.map inside) :
    ps = qs := by
  induction ps generalizing qs with
  | nil => exact (List.map_eq_nil_iff.1 e.symm).symm
  | cons p ps ih =>
    obtain ⟨q, qs, rfl, head, tail⟩ := List.map_eq_cons_iff.1 e.symm
    obtain ⟨cp, tp⟩ := hp p List.mem_cons_self
    obtain ⟨cq, tq⟩ := hq q List.mem_cons_self
    rw [inside_inj cp cq tp tq head.symm, ih (fun x hx => hp x (List.mem_cons_of_mem _ hx))
      (fun x hx => hq x (List.mem_cons_of_mem _ hx)) tail.symm]

end Part

open SchemaBoard.Html.Part

/-- A reading of a text as clean markup. -/
structure IsReading (cs : List Char) (parts : List Part) : Prop where
  written : cs = parts.flatMap Part.write
  clean : ∀ p ∈ parts, p.IsClean

namespace IsReading

variable {cs ds : List Char} {ps qs : List Part}

theorem nil : IsReading [] [] := ⟨rfl, by simp⟩

theorem part {p : Part} (h : p.IsClean) : IsReading p.write [p] := ⟨by simp, by simpa using h⟩

theorem append (hp : IsReading cs ps) (hq : IsReading ds qs) :
    IsReading (cs ++ ds) (ps ++ qs) := by
  refine ⟨by rw [hp.written, hq.written, List.flatMap_append], ?_⟩
  intro p h
  rcases List.mem_append.1 h with h | h
  · exact hp.clean p h
  · exact hq.clean p h

/-- The readings of a text differ only in where texts are parted. -/
theorem filter_isTag_eq (hp : IsReading cs ps) (hq : IsReading cs qs) :
    ps.filter isTag = qs.filter isTag := by
  have tags {rs : List Part} (hr : IsReading cs rs) :
      ∀ r ∈ rs.filter isTag, r.IsClean ∧ r.isTag = true := by
    intro r h
    obtain ⟨hm, ht⟩ := List.mem_filter.1 h
    exact ⟨hr.clean r hm, ht⟩
  apply eq_of_map_inside_eq (tags hp) (tags hq)
  rw [← tagTexts_flatMap_write hp.clean, ← tagTexts_flatMap_write hq.clean, ← hp.written,
    ← hq.written]

theorem nest_eq (hp : IsReading cs ps) (hq : IsReading cs qs) (names : List String) :
    nest names ps = nest names qs := by
  rw [← nest_filter_isTag, hp.filter_isTag_eq hq, nest_filter_isTag]

theorem harmless (h : IsReading cs ps) : Harmless cs :=
  ⟨ps, fun p hp => (h.clean p hp).isAllowed, h.written⟩

end IsReading

namespace Markup

/-! ## Clean markup in parts -/

/-- The attributes of a tag with its class, if it has one. -/
def labelling (label : Option String) : List (String × List Char) :=
  (label.map fun l => ("class", escapeValue l.toList)).toList

theorem isLabelling_labelling (label : Option String) : IsLabelling (labelling label) := by
  cases label with
  | none => exact .inl rfl
  | some l => exact .inr ⟨escapeValue l.toList, rfl, quotable_escapeValue l.toList⟩

theorem write_opening (name : String) (label : Option String) :
    (Part.opening name (labelling label)).write = openingTag name label := by
  cases label with
  | none => simp [openingTag, Part.write, labelling]
  | some l => simp [openingTag, Part.write, writeAttribute, labelling]

mutual

/-- The parts that markup is written as. -/
def parts : Markup → List Part
  | .text chars => [.text (escapeText chars)]
  | .lineBreak label => [.opening "br" (labelling label)]
  | .element tag label children =>
    .opening tag.name (labelling label) :: (allParts children ++ [.closing tag.name])

def allParts : List Markup → List Part
  | [] => []
  | m :: rest => parts m ++ allParts rest

end

theorem name_mem_elementNames (tag : KeptTag) : tag.name ∈ elementNames := by
  cases tag <;> decide

mutual

theorem isReading_parts : (m : Markup) → IsReading m.render m.parts
  | .text chars => by
    rw [render, parts]
    exact .part (p := .text _) (angle_notMem_escapeText chars)
  | .lineBreak label => by
    rw [render, parts, ← write_opening]
    exact .part ⟨.inl rfl, isLabelling_labelling label⟩
  | .element tag label children => by
    have name := name_mem_elementNames tag
    have opened : IsReading (openingTag tag.name label) [.opening tag.name (labelling label)] := by
      rw [← write_opening]
      exact .part ⟨.inr name, isLabelling_labelling label⟩
    have closed : IsReading (closingTag tag.name) [.closing tag.name] :=
      .part (p := .closing tag.name) name
    rw [render, parts, List.append_assoc]
    exact opened.append ((isReading_allParts children).append closed)

theorem isReading_allParts : (ms : List Markup) → IsReading (renderAll ms) (allParts ms)
  | [] => by
    rw [renderAll, allParts]
    exact .nil
  | m :: rest => by
    rw [renderAll, allParts]
    exact (isReading_parts m).append (isReading_allParts rest)

end

mutual

/-- What markup opens it closes. -/
theorem nest_parts : (m : Markup) → (names : List String) → (rest : List Part) →
    nest names (m.parts ++ rest) = nest names rest
  | .text chars, names, rest => by
    rw [parts]
    rfl
  | .lineBreak label, names, rest => by
    rw [parts]
    rfl
  | .element tag label children, names, rest => by
    have holds : tag.name ≠ "br" := by cases tag <;> decide
    rw [parts, List.cons_append, List.append_assoc, nest, if_neg holds, nest_allParts]
    simp [nest]

theorem nest_allParts : (ms : List Markup) → (names : List String) → (rest : List Part) →
    nest names (allParts ms ++ rest) = nest names rest
  | [], names, rest => by
    rw [allParts]
    rfl
  | m :: ms, names, rest => by
    rw [allParts, List.append_assoc, nest_parts, nest_allParts]

end

end Markup

theorem isReading_clean (text : String) :
    IsReading (clean text).toList (Markup.allParts (Dom.ofText text.toList).markup) := by
  rw [clean, String.toList_ofList]
  exact Markup.isReading_allParts _

/-- Whatever text is cleaned, the result can be read as clean markup: texts without angle brackets,
line breaks, and opening and closing tags of four kinds of elements, with at most a class each. And
however it is read, the elements are properly nested and all of them are closed. -/
theorem clean_is_wellNested (text : String) :
    (∃ parts, IsReading (clean text).toList parts) ∧
    ∀ parts, IsReading (clean text).toList parts → nest [] parts = some [] := by
  have reading := isReading_clean text
  refine ⟨⟨_, reading⟩, ?_⟩
  intro parts other
  rw [other.nest_eq reading]
  simpa [nest] using Markup.nest_allParts (Dom.ofText text.toList).markup [] []

example : nest [] [.opening "div" [], .opening "span" [], .closing "div", .closing "span"] = none :=
  rfl

/-- Elements that overlap are parted when they are cleaned. -/
def parted : List Part :=
  [.opening "div" [("class", "x".toList)], .opening "span" [], .text "a".toList, .closing "span",
    .closing "div", .opening "br" [], .text "&lt;".toList]

theorem parted_is_wellNested :
    IsReading (clean "<div class=x onclick=y><span>a</div></span></br>&lt;").toList parted ∧
    nest [] parted = some [] := by
  have reading :
      IsReading (clean "<div class=x onclick=y><span>a</div></span></br>&lt;").toList parted := by
    refine ⟨by decide +kernel, ?_⟩
    simp [parted, IsClean, IsLabelling, elementNames, IsQuotable]
  exact ⟨reading, (clean_is_wellNested _).2 parted reading⟩

end SchemaBoard.Html
