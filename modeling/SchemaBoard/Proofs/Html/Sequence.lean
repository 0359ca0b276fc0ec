import SchemaBoard.Proofs.Html.Nesting

/-!
# The tags of markup, with the texts between them

Markup is read once from left to right, character by character. Only the quotes of a value hide what
stands between them: everywhere else a less-than sign starts a tag and a greater-than sign ends it,
and what has not the form of a tag there, or of a text, is not read at all. Main statement: from
allowed parts that are written one after the other just these tags are read, and the texts between
them (`read_flatMap_write`).
-/
namespace SchemaBoard.Html

open SchemaBoard.Html.Part

/-- What markup shows: the text in front of its first tag, and each tag with the text behind it. -/
structure Sequence where
  lead : List Char := []
  steps : List (Part × List Char) := []

namespace Sequence

def tags (q : Sequence) : List Part := q.steps.map (·.1)

def texts (q : Sequence) : List (List Char) := q.steps.map (·.2)

/-- Put a part in front. -/
def before (p : Part) (q : Sequence) : Sequence :=
  if p.isTag then ⟨[], (p, q.lead) :: q.steps⟩ else ⟨p.write ++ q.lead, q.steps⟩

/-- Put parts in front. -/
def behind (ps : List Part) (q : Sequence) : Sequence := ps.foldr before q

@[simp] theorem behind_nil (q : Sequence) : q.behind [] = q := rfl

@[simp] theorem behind_cons (p : Part) (ps : List Part) (q : Sequence) :
    q.behind (p :: ps) = (q.behind ps).before p := rfl

@[simp] theorem behind_append (ps qs : List Part) (q : Sequence) :
    q.behind (ps ++ qs) = (q.behind qs).behind ps := List.foldr_append

theorem lead_before_text (chars : List Char) (q : Sequence) :
    (q.before (.text chars)).lead = chars ++ q.lead := rfl

theorem lead_before {p : Part} (h : p.isTag = true) (q : Sequence) : (q.before p).lead = [] := by
  rw [before, if_pos h]

theorem texts_before {p : Part} (h : p.isTag = true) (q : Sequence) :
    (q.before p).texts = q.lead :: q.texts := by
  rw [before, if_pos h]
  rfl

theorem tags_behind (ps : List Part) (q : Sequence) :
    (q.behind ps).tags = ps.filter isTag ++ q.tags := by
  induction ps with
  | nil => rfl
  | cons p ps ih =>
    cases p with
    | text chars => exact ih
    | opening name attributes => exact congrArg _ ih
    | closing name => exact congrArg _ ih

end Sequence

open Sequence (before behind)

/-- How far a reader has come: it is in a text, right behind a less-than sign, in a closing tag, or
in an opening tag, of which it knows the name and some attributes. -/
inductive Reach where
  | text
  | bracket
  | closing (name : List Char)
  | opening (name : List Char)
  | attribute (name : String) (attributes : List (String × List Char)) (key : List Char)
  | equals (name : String) (attributes : List (String × List Char)) (key : String)
  | value (name : String) (attributes : List (String × List Char)) (key : String)
    (chars : List Char)
  | behind (name : String) (attributes : List (String × List Char))

/-- Read markup from a place on. -/
def read : Reach → List Char → Option Sequence
  | .text, [] => some {}
  | _, [] => none
  | .text, c :: cs =>
    if c = '<' then read .bracket cs
    else if c = '>' then none
    else (read .text cs).map (before (.text [c]))
  | .bracket, c :: cs => if c = '/' then read (.closing []) cs else read (.opening [c]) cs
  | .closing name, c :: cs =>
    if c = '>' then (read .text cs).map (before (.closing (.ofList name)))
    else read (.closing (name ++ [c])) cs
  | .opening name, c :: cs =>
    if c = '>' then (read .text cs).map (before (.opening (.ofList name) []))
    else if c = ' ' then read (.attribute (.ofList name) [] []) cs
    else read (.opening (name ++ [c])) cs
  | .attribute name attributes key, c :: cs =>
    if c = '=' then read (.equals name attributes (.ofList key)) cs
    else read (.attribute name attributes (key ++ [c])) cs
  | .equals name attributes key, c :: cs =>
    if c = '\x22' then read (.value name attributes key []) cs else none
  | .value name attributes key chars, c :: cs =>
    if c = '\x22' then read (.behind name (attributes ++ [(key, chars)])) cs
    else read (.value name attributes key (chars ++ [c])) cs
  | .behind name attributes, c :: cs =>
    if c = '>' then (read .text cs).map (before (.opening name attributes))
    else if c = ' ' then read (.attribute name attributes []) cs
    else none

/-- A place at which characters are gathered gathers a whole run of them. -/
theorem read_gathered {place : List Char → Reach} (free : Char → Prop)
    (step : ∀ gathered c cs, free c →
      read (place gathered) (c :: cs) = read (place (gathered ++ [c])) cs)
    {cs : List Char} (h : ∀ c ∈ cs, free c) (gathered rest : List Char) :
    read (place gathered) (cs ++ rest) = read (place (gathered ++ cs)) rest := by
  induction cs generalizing gathered with
  | nil => simp
  | cons c cs ih =>
    rw [List.cons_append, step _ _ _ (h c List.mem_cons_self),
      ih fun d hd => h d (List.mem_cons_of_mem c hd)]
    simp

theorem read_text {cs : List Char} (h : '<' ∉ cs ∧ '>' ∉ cs) (rest : List Char) :
    read .text (cs ++ rest) = (read .text rest).map (before (.text cs)) := by
  induction cs with
  | nil => exact (congrFun Option.map_id _).symm
  | cons c cs ih =>
    obtain ⟨lt, gt⟩ := h
    obtain ⟨hlt, lt⟩ := not_or.1 (mt List.mem_cons.2 lt)
    obtain ⟨hgt, gt⟩ := not_or.1 (mt List.mem_cons.2 gt)
    rw [List.cons_append, read, if_neg (Ne.symm hlt), if_neg (Ne.symm hgt), ih ⟨lt, gt⟩,
      Option.map_map]
    rfl

/-! ## Tags -/

theorem read_closing {cs : List Char} (h : '>' ∉ cs) (rest : List Char) :
    read (.closing []) (cs ++ '>' :: rest) =
      (read .text rest).map (before (.closing (.ofList cs))) := by
  rw [read_gathered (· ≠ '>') (fun _ _ _ hc => by rw [read, if_neg hc])
    (fun c hc e => h (e ▸ hc)), List.nil_append, read, if_pos rfl]

/-- An attribute is read after others. -/
theorem read_writeAttribute {a : String × List Char} (hn : a.1 ∈ attributeNames)
    (hv : IsQuotable a.2) (name : String) (attributes : List (String × List Char))
    (rest : List Char) :
    read (.behind name attributes) (writeAttribute a ++ rest) =
      read (.behind name (attributes ++ [a])) rest := by
  have names : ∀ n ∈ attributeNames, '=' ∉ n.toList := by decide
  obtain ⟨key, value⟩ := a
  have written : writeAttribute (key, value) ++ rest =
      ' ' :: (key.toList ++ '=' :: '\x22' :: (value ++ '\x22' :: rest)) := by
    simp [writeAttribute]
  have to_key : read (.attribute name attributes [])
      (key.toList ++ '=' :: '\x22' :: (value ++ '\x22' :: rest)) =
      read (.value name attributes key []) (value ++ '\x22' :: rest) := by
    rw [read_gathered (· ≠ '=') (fun _ _ _ hc => by rw [read, if_neg hc])
      (fun c hc e => names key hn (e ▸ hc)), List.nil_append, read, if_pos rfl, read, if_pos rfl,
      String.ofList_toList]
  have to_value : read (.value name attributes key []) (value ++ '\x22' :: rest) =
      read (.behind name (attributes ++ [(key, value)])) rest := by
    rw [read_gathered (· ≠ '\x22') (fun _ _ _ hc => by rw [read, if_neg hc])
      (fun c hc e => hv.1 (e ▸ hc)), List.nil_append, read, if_pos rfl]
  rw [written, read, if_neg (by decide), if_pos rfl, to_key, to_value]

theorem read_attributes {as : List (String × List Char)}
    (h : ∀ a ∈ as, a.1 ∈ attributeNames ∧ IsQuotable a.2) (name : String)
    (attributes : List (String × List Char)) (rest : List Char) :
    read (.behind name attributes) (as.flatMap writeAttribute ++ '>' :: rest) =
      (read .text rest).map (before (.opening name (attributes ++ as))) := by
  induction as generalizing attributes with
  | nil => simp [read]
  | cons a as ih =>
    obtain ⟨hn, hv⟩ := h a List.mem_cons_self
    rw [List.flatMap_cons, List.append_assoc, read_writeAttribute hn hv,
      ih fun b hb => h b (List.mem_cons_of_mem a hb)]
    simp

/-- Attributes are read right behind the name of a tag as they are behind others. -/
theorem read_name_end (name : List Char) (as : List (String × List Char)) (rest : List Char) :
    read (.opening name) (as.flatMap writeAttribute ++ '>' :: rest) =
      read (.behind (.ofList name) []) (as.flatMap writeAttribute ++ '>' :: rest) := by
  cases as with
  | nil => simp [read]
  | cons a as => simp [writeAttribute, read]

theorem read_opening {name : String} {as : List (String × List Char)}
    (h : (Part.opening name as).IsAllowed) (rest : List Char) :
    read .bracket (name.toList ++ as.flatMap writeAttribute ++ '>' :: rest) =
      (read .text rest).map (before (.opening name as)) := by
  have names : ∀ n ∈ tagNames,
      n.toList ≠ [] ∧ '/' ∉ n.toList ∧ '>' ∉ n.toList ∧ ' ' ∉ n.toList := by decide
  obtain ⟨nonempty, slash, gt, space⟩ := names name h.1
  obtain ⟨c, cs, hc⟩ := List.exists_cons_of_ne_nil nonempty
  have first : c ≠ '/' := fun e => slash (by rw [hc, e]; exact List.mem_cons_self)
  have free : ∀ d ∈ cs, d ≠ '>' ∧ d ≠ ' ' := by
    intro d hd
    have hm : d ∈ name.toList := hc ▸ List.mem_cons_of_mem c hd
    exact ⟨fun e => gt (e ▸ hm), fun e => space (e ▸ hm)⟩
  have whole : Reach.opening ([c] ++ cs) = .opening name.toList := by rw [hc, List.singleton_append]
  rw [hc, List.append_assoc, List.cons_append, read, if_neg first,
    read_gathered (fun d => d ≠ '>' ∧ d ≠ ' ')
      (fun _ _ _ hd => by rw [read, if_neg hd.1, if_neg hd.2]) free,
    whole, read_name_end, read_attributes h.2, String.ofList_toList, List.nil_append]

theorem read_write {p : Part} (h : p.IsAllowed) (rest : List Char) :
    read .text (p.write ++ rest) = (read .text rest).map (before p) := by
  cases p with
  | text chars => exact read_text h rest
  | opening name attributes =>
    have written : (Part.opening name attributes).write ++ rest =
        '<' :: (name.toList ++ attributes.flatMap writeAttribute ++ '>' :: rest) := by
      simp [Part.write]
    rw [written, read, if_pos rfl, read_opening h]
  | closing name =>
    have names : ∀ n ∈ tagNames, '>' ∉ n.toList := by decide
    have written : (Part.closing name).write ++ rest =
        '<' :: '/' :: (name.toList ++ '>' :: rest) := by
      simp [Part.write]
    rw [written, read, if_pos rfl, read, if_pos rfl, read_closing (names name h),
      String.ofList_toList]

/-- What is written as allowed parts is read as these parts. -/
theorem read_flatMap_write {ps : List Part} (h : ∀ p ∈ ps, p.IsAllowed) :
    read .text (ps.flatMap write) = some (behind ps {}) := by
  induction ps with
  | nil => rfl
  | cons p ps ih =>
    rw [List.flatMap_cons, read_write (h p List.mem_cons_self),
      ih fun q hq => h q (List.mem_cons_of_mem p hq)]
    rfl

/-- Inside the quotes of a value a greater-than sign ends no tag. -/
example : read .text ['<', 'p', ' ', 'x', '=', '\x22', '>', '\x22', '>', 'a'] =
    some ⟨[], [(.opening "p" [("x", ['>'])], ['a'])]⟩ := rfl

example : read .text ['<', 'p', ' ', 'x', '=', '>', 'a'] = none := rfl

end SchemaBoard.Html
