import SchemaBoard.Proofs.Board.Page
import SchemaBoard.Proofs.Html.Sequence

/-!
# The texts of a card

Between any two tags of a card stands a label that the page brings along, or one of the strings of
the card. Pieces that are laid out with texts are allowed, close what they open, show just these
texts, and have the tags of the same pieces without strings; so it is with a card, element by
element, once its code is left out. Main statement: `Card.laid`.
-/
namespace SchemaBoard

open Html (Sequence tagNames attributeNames)
open Html.Part (nest isTag)
open Piece

/-- A text between two tags. -/
inductive Slot where
  | label (s : String)
  | own (s : String)
  deriving DecidableEq

namespace Slot

def string : Slot → String
  | .label s => s
  | .own s => s

def own? : Slot → Option String
  | .label _ => none
  | .own s => some s

def blank : Slot → Slot
  | .label s => .label s
  | .own _ => .own ""

def escaped (s : Slot) : List Char := Text.escapeChars s.string.toList

/-- No text at all. -/
def gap : Slot := .label ""

/-- The texts of an element: the first one in it, those behind the tags in it, and the one behind
the element. -/
def element (first : Slot) (inner : List Slot) : List Slot := first :: (inner ++ [gap])

theorem map_blank_element (first : Slot) (ss : List Slot) :
    (element first ss).map blank = element first.blank (ss.map blank) := by
  simp [element, gap, blank]

theorem filterMap_own_element (first : Slot) (ss : List Slot) :
    (element first ss).filterMap own? = first.own?.toList ++ ss.filterMap own? := by
  cases first with
  | label s => simp [element, gap, own?, List.filterMap_cons]
  | own s => simp [element, gap, own?, List.filterMap_cons]

end Slot

open Slot

/-! ## The texts of a card -/

def entrySlots (entries : List String) : List Slot :=
  element gap (entries.flatMap fun e => element (.own e) [])

def headSlots : List Slot :=
  element gap (element gap (headings.flatMap fun h => element (.label h) []))

theorem entrySlots_blank (entries : List String) :
    entrySlots (entries.map fun _ => "") = (entrySlots entries).map Slot.blank := by
  simp only [entrySlots, map_blank_element, List.flatMap_map, List.map_flatMap, Slot.blank, gap,
    List.map_nil]

theorem filterMap_own_entrySlots (entries : List String) :
    (entrySlots entries).filterMap own? = entries := by
  simp [entrySlots, filterMap_own_element, List.filterMap_flatMap, own?, gap]

namespace Row

def slots (r : Row) : List Slot :=
  element gap <|
    element (.own r.name) [] ++ element (.own r.type) [] ++ entrySlots r.constraints
      ++ entrySlots r.relationFields ++ entrySlots r.relationReferences
      ++ element (.label (if r.isIndex then "true" else "false")) []

/-- The strings of a row. -/
def strings (r : Row) : List String :=
  r.name :: r.type :: (r.constraints ++ r.relationFields ++ r.relationReferences)

/-- The row with all its strings empty. -/
def blank (r : Row) : Row :=
  { r with
    name := ""
    type := ""
    constraints := r.constraints.map fun _ => ""
    relationFields := r.relationFields.map fun _ => ""
    relationReferences := r.relationReferences.map fun _ => "" }

theorem slots_blank (r : Row) : r.blank.slots = r.slots.map Slot.blank := by
  simp only [slots, blank, map_blank_element, entrySlots_blank, List.map_append]
  rfl

theorem filterMap_own_slots (r : Row) : r.slots.filterMap own? = r.strings := by
  simp [slots, strings, filterMap_own_element, filterMap_own_entrySlots, own?, gap]

end Row

namespace CardBody

def slots : CardBody → List Slot
  | .preview names =>
    element gap ((names.flatMap fun n => element (.own n) []) ++ element (.label "...") [])
  | .table rows => element gap (headSlots ++ element gap (rows.flatMap Row.slots))
  | .code _ => element gap []

/-- The strings of a body, code left out. -/
def strings : CardBody → List String
  | .preview names => names
  | .table rows => rows.flatMap Row.strings
  | .code _ => []

/-- The body without code. -/
def unlit : CardBody → CardBody
  | .code _ => .code none
  | body => body

/-- The body with all its strings empty, and without code. -/
def blank : CardBody → CardBody
  | .preview names => .preview (names.map fun _ => "")
  | .table rows => .table (rows.map Row.blank)
  | .code _ => .code none

theorem slots_blank (b : CardBody) : b.blank.slots = b.slots.map Slot.blank := by
  cases b with
  | preview names =>
    simp only [slots, blank, map_blank_element, List.flatMap_map, List.map_append, List.map_flatMap,
      Slot.blank, gap, List.map_nil]
  | table rows =>
    have head : headSlots.map Slot.blank = headSlots := rfl
    simp [slots, blank, map_blank_element, List.flatMap_map, List.map_flatMap, Row.slots_blank,
      Slot.blank, gap, head]
  | code html => rfl

theorem filterMap_own_slots (b : CardBody) : b.slots.filterMap own? = b.strings := by
  cases b with
  | preview names => simp [slots, strings, filterMap_own_element, List.filterMap_flatMap, own?, gap]
  | table rows =>
    have head : headSlots.filterMap own? = [] := rfl
    simp [slots, strings, filterMap_own_element, List.filterMap_flatMap, Row.filterMap_own_slots,
      head, own?, gap]
  | code html => rfl

end CardBody

namespace Card

def slots (c : Card) : List Slot :=
  element gap <|
    element (.own c.name) [] ++ c.body.slots
      ++ element gap (Control.all.flatMap fun b => element (.label b.label) [])

/-- The strings of a card but for its id, code left out. -/
def strings (c : Card) : List String := c.name :: c.body.strings

/-- The card without code. -/
def unlit (c : Card) : Card := { c with body := c.body.unlit }

/-- The card with all its strings empty, and without code. -/
def blank (c : Card) : Card := { c with id := "", name := "", body := c.body.blank }

/-- Two cards of the same mode and width, with as many names or rows; each two rows have the same
flags and as many entries of each kind. -/
def Alike (c k : Card) : Prop := c.blank = k.blank

instance (c k : Card) : Decidable (c.Alike k) := inferInstanceAs (Decidable (c.blank = k.blank))

theorem slots_blank (c : Card) : c.blank.slots = c.slots.map Slot.blank := by
  simp [slots, blank, map_blank_element, List.map_flatMap, CardBody.slots_blank, Slot.blank, gap]

theorem filterMap_own_slots (c : Card) : c.slots.filterMap own? = c.strings := by
  simp [slots, strings, filterMap_own_element, List.filterMap_flatMap, CardBody.filterMap_own_slots,
    own?, gap]

end Card

/-! ## Elements -/

namespace Piece

/-- Pieces `ps` that are laid out with texts, a first one and one behind each tag; their tags are
those of `qs`. -/
structure Laid (ps qs : List Piece) (first : Slot) (ss : List Slot) : Prop where
  allowed : ∀ p ∈ ps, p.part.IsAllowed
  nested : ∀ names rest, nest names (ps.map part ++ rest) = nest names rest
  tags : (ps.map part).filter isTag = (qs.map part).filter isTag
  lead : ∀ q : Sequence, q.lead = [] → (q.behind (ps.map part)).lead = first.escaped
  texts : ∀ q : Sequence, q.lead = [] →
    (q.behind (ps.map part)).texts = ss.map escaped ++ q.texts

namespace Laid

variable {ps qs us vs : List Piece} {first : Slot} {ss ts : List Slot}

theorem nil : Laid [] [] gap [] where
  allowed := nofun
  nested _ _ := rfl
  tags := rfl
  lead _ h := h
  texts _ _ := rfl

/-- No code. -/
theorem markup : Laid [.markup ""] [.markup ""] gap [] where
  allowed p h := by
    obtain rfl := List.mem_singleton.1 h
    exact ⟨List.not_mem_nil, List.not_mem_nil⟩
  nested _ _ := rfl
  tags := rfl
  lead _ h := h
  texts _ _ := rfl

theorem slot (s : Slot) : Laid [.text s.string] [.text s.blank.string] s [] where
  allowed p h := by
    obtain rfl := List.mem_singleton.1 h
    exact (Text.quotable_escapeChars _).2
  nested _ _ := rfl
  tags := rfl
  lead q h := by simp [part, Sequence.lead_before_text, h, escaped]
  texts _ _ := rfl

theorem own (s : String) : Laid [.text s] [.text ""] (.own s) [] := slot (.own s)

theorem label (s : String) : Laid [.text s] [.text s] (.label s) [] := slot (.label s)

theorem append (hp : Laid ps qs first ss) (hu : Laid us vs gap ts) :
    Laid (ps ++ us) (qs ++ vs) first (ss ++ ts) where
  allowed p h := by
    rcases List.mem_append.1 h with h | h
    · exact hp.allowed p h
    · exact hu.allowed p h
  nested names rest := by rw [List.map_append, List.append_assoc, hp.nested, hu.nested]
  tags := by
    rw [List.map_append, List.map_append, List.filter_append, List.filter_append, hp.tags, hu.tags]
  lead q h := by
    rw [List.map_append, Sequence.behind_append]
    exact hp.lead _ (hu.lead q h)
  texts q h := by
    rw [List.map_append, Sequence.behind_append, hp.texts _ (hu.lead q h), hu.texts q h,
      List.map_append, List.append_assoc]

theorem flatMap {α : Type} {f : α → List Piece} {b : α → α} {g : α → List Slot}
    (h : ∀ x, Laid (f x) (f (b x)) gap (g x)) (xs : List α) :
    Laid (xs.flatMap f) ((xs.map b).flatMap f) gap (xs.flatMap g) := by
  induction xs with
  | nil => exact nil
  | cons x xs ih => exact (h x).append ih

/-- Items without strings stay as they are. -/
theorem labels {α : Type} {f : α → List Piece} {g : α → List Slot}
    (h : ∀ x, Laid (f x) (f x) gap (g x)) (xs : List α) :
    Laid (xs.flatMap f) (xs.flatMap f) gap (xs.flatMap g) := by
  simpa using flatMap (b := id) h xs

theorem behind_within (name : String) (attributes : List (String × String)) (ps : List Piece)
    (q : Sequence) : q.behind ((Piece.within name attributes ps).map part) =
      ((q.before (.closing name)).behind (ps.map part)).before (opening name attributes).part := by
  simp [Piece.within, part]

/-- An element closes what it opens. -/
theorem within {name : String} {attributes : List (String × String)}
    (hn : name ∈ tagNames ∧ name ≠ "br") (ha : ∀ a ∈ attributes, a.1 ∈ attributeNames)
    (h : Laid ps qs first ss) :
    Laid (Piece.within name attributes ps) (Piece.within name attributes qs) gap
      (element first ss) where
  allowed p hm := by
    rcases List.mem_cons.1 hm with rfl | hm
    · exact isAllowed_part_opening hn.1 ha
    rcases List.mem_append.1 hm with hm | hm
    · exact h.allowed p hm
    · obtain rfl := List.mem_singleton.1 hm
      exact hn.1
  nested names rest := by simp [Piece.within, part, nest, hn.2, h.nested]
  tags := by
    simp only [Piece.within, List.cons_append, List.map_cons, List.map_append, List.filter_cons,
      List.filter_append, h.tags]
  lead q _ := by
    rw [behind_within, Sequence.lead_before rfl]
    rfl
  texts q hq := by
    have closed := Sequence.lead_before (p := .closing name) rfl q
    rw [behind_within, Sequence.texts_before rfl, h.lead _ closed, h.texts _ closed,
      Sequence.texts_before rfl, hq]
    simp [element, gap, escaped, string, Text.escapeChars]

theorem block (h : Laid ps qs first ss) (label : String) :
    Laid (Piece.block label ps) (Piece.block label qs) gap (element first ss) :=
  h.within (by decide) (by simp [attributeNames])

end Laid
end Piece

/-! ## Cards -/

theorem laid_entryLines (entries : List String) :
    Laid (within "td" [] (entryLines entries))
      (within "td" [] (entryLines (entries.map fun _ => ""))) gap (entrySlots entries) := by
  have line (e : String) :
      Laid (within "div" [] [.text e]) (within "div" [] [.text ""]) gap (element (.own e) []) :=
    (Laid.own e).within (by decide) (by simp)
  exact (Laid.flatMap line entries).within (by decide) (by simp)

theorem Row.laid (r : Row) : Laid r.pieces r.blank.pieces gap r.slots := by
  have cell {ps qs : List Piece} {first : Slot} {ss : List Slot} (h : Laid ps qs first ss) :
      Laid (within "td" [] ps) (within "td" [] qs) gap (element first ss) :=
    h.within (by decide) (by simp)
  have type : Laid
      (within "td" (if r.isEmphasized then [("class", "relation-type")] else []) [.text r.type])
      (within "td" (if r.isEmphasized then [("class", "relation-type")] else []) [.text ""])
      gap (element (.own r.type) []) := by
    refine (Laid.own r.type).within (by decide) ?_
    cases r.isEmphasized <;> simp [attributeNames]
  have cells := (((((cell (.own r.name)).append type).append (laid_entryLines r.constraints)).append
    (laid_entryLines r.relationFields)).append (laid_entryLines r.relationReferences))
  exact (cells.append (cell (.label _))).within (by decide) (by simp)

theorem laid_headRow : Laid headRow headRow gap headSlots := by
  have heading (h : String) :
      Laid (within "th" [] [.text h]) (within "th" [] [.text h]) gap (element (.label h) []) :=
    (Laid.label h).within (by decide) (by simp)
  have row : Laid (within "tr" [] (headings.flatMap fun h => within "th" [] [.text h])) _ gap _ :=
    (Laid.labels heading headings).within (by decide) (by simp)
  exact row.within (by decide) (by simp)

theorem CardBody.laid (b : CardBody) : Laid b.unlit.pieces b.blank.pieces gap b.slots := by
  cases b with
  | preview names =>
    have row (n : String) : Laid (Piece.block "preview-row" [.text n])
        (Piece.block "preview-row" [.text ""]) gap (element (.own n) []) := (Laid.own n).block _
    have ellipsis := (Laid.label "...").block "preview-row"
    simpa [unlit, blank, pieces, slots] using
      ((Laid.flatMap row names).append ellipsis).block "model-preview"
  | table rows =>
    have body : Laid (Piece.within "tbody" [] (rows.flatMap Row.pieces)) _ gap _ :=
      (Laid.flatMap Row.laid rows).within (by decide) (by simp)
    exact (laid_headRow.append body).within (by decide) (by simp [attributeNames])
  | code html => exact Laid.markup.block "model-code"

theorem Card.laid (c : Card) :
    Laid c.unlit.pieces { c.blank with id := c.id }.pieces gap c.slots := by
  have control (b : Control) :
      Laid (b.pieces c.mode) (b.pieces c.mode) gap (element (.label b.label) []) :=
    (Laid.label b.label).within (by decide) (by simp [attributeNames])
  have caption := (Laid.own c.name).block "model-caption"
  have controls := (Laid.labels control Control.all).block "model-controls"
  exact ((caption.append c.body.laid).append controls).within (by decide) (by simp [attributeNames])

end SchemaBoard
