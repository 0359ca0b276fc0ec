import SchemaBoard.Proofs.Board.Layout
import SchemaBoard.Proofs.Text.Escape

/-!
# Strings of a schema stay in their places

Two cards of one form are read as the same tags, but for the id, with the same labels between them;
the other texts, and the id, are the strings of each card once they are unescaped. Code is markup of
its own: of a card that shows code this holds for what stands around it. Main statement:
`alike_cards_differ_in_strings`.
-/
namespace SchemaBoard

open Html (Part Sequence read)
open Html.Part (nest isTag)
open Piece Slot

namespace Html.Part

/-- A tag without the value of one of its attributes. -/
def hide (key : String) : Part → Part
  | .opening name attributes =>
    .opening name (attributes.map fun a => if a.1 = key then (key, []) else a)
  | p => p

/-- The values that a tag has for an attribute. -/
def values (key : String) : Part → List (List Char)
  | .opening _ attributes => (attributes.filter (·.1 = key)).map (·.2)
  | _ => []

theorem flatMap_values_filter_isTag (key : String) (ps : List Part) :
    (ps.filter isTag).flatMap (values key) = ps.flatMap (values key) := by
  induction ps with
  | nil => rfl
  | cons p ps ih => cases p <;> simp [List.filter_cons, isTag, values, ih]

end Html.Part

open Html.Part (hide values)

/-- The key of ids. -/
def idKey : String := "data-model-id"

/-! ## Ids -/

namespace Piece

/-- The ids in a piece. -/
def ownIds : Piece → List String
  | .opening _ attributes => (attributes.filter (·.1 = idKey)).map (·.2)
  | _ => []

def ids (ps : List Piece) : List String := ps.flatMap ownIds

theorem values_part (p : Piece) :
    p.part.values idKey = p.ownIds.map fun s => Text.escapeChars s.toList := by
  cases p <;> simp [part, values, ownIds, List.filter_map, Function.comp_def]

theorem flatMap_values_part (ps : List Piece) : (ps.map part).flatMap (values idKey) =
    (ids ps).map fun s => Text.escapeChars s.toList := by
  simp [ids, List.flatMap_map, List.map_flatMap, values_part]

@[simp] theorem ids_append (ps qs : List Piece) : ids (ps ++ qs) = ids ps ++ ids qs :=
  List.flatMap_append

@[simp] theorem ids_flatMap {α : Type} (f : α → List Piece) (xs : List α) :
    ids (xs.flatMap f) = xs.flatMap fun x => ids (f x) := List.flatMap_assoc

@[simp] theorem ids_within (name : String) (attributes : List (String × String))
    (ps : List Piece) :
    ids (within name attributes ps) = ids [opening name attributes] ++ ids ps := by
  simp [within, ids, ownIds]

@[simp] theorem ids_text (s : String) : ids [.text s] = [] := rfl

@[simp] theorem ids_plain (name : String) : ids [opening name []] = [] := rfl

@[simp] theorem ids_labelled (name label : String) :
    ids [opening name [("class", label)]] = [] := by
  simp [ids, ownIds, idKey]

end Piece

theorem Row.ids_pieces (r : Row) : ids r.pieces = [] := by
  cases h : r.isEmphasized <;> simp [Row.pieces, entryLines, h]

theorem CardBody.ids_pieces (b : CardBody) : ids b.pieces = [] := by
  cases b with
  | preview names => simp [CardBody.pieces, block]
  | table rows => simp [CardBody.pieces, headRow, Row.ids_pieces]
  | code html =>
    have markup : ids [.markup (html.getD "")] = [] := rfl
    simp [CardBody.pieces, block, markup]

theorem Control.ids_pieces (shown : Mode) (b : Control) : ids (b.pieces shown) = [] := by
  simp [Control.pieces, ids, ownIds, within, idKey]

theorem Card.ids_pieces (c : Card) : ids c.pieces = [c.id] := by
  have own : ids [opening "div" (attributes c.width c.id c.mode)] = [c.id] := by
    simp [ids, ownIds, attributes, idKey]
  have inner : ids (block "model-caption" [.text c.name] ++ c.body.pieces
      ++ block "model-controls" (Control.all.flatMap (Control.pieces c.mode))) = [] := by
    simp [block, CardBody.ids_pieces, Control.ids_pieces]
  rw [pieces, ids_within, inner, List.append_nil]
  exact own

/-! ## Tags -/

namespace Piece

theorem read_write {ps : List Piece} (h : ∀ p ∈ ps, p.part.IsAllowed) :
    read .text (write ps) = some (Sequence.behind (ps.map part) {}) := by
  rw [← Html.read_flatMap_write]
  · simp [write, List.flatMap_map, write_part]
  · intro p hp
    obtain ⟨x, hx, rfl⟩ := List.mem_map.1 hp
    exact h x hx

/-- The tags of pieces without ids. -/
def outline (ps : List Piece) : List Part := ((ps.map part).filter isTag).map (hide idKey)

theorem outline_cons (p : Piece) (ps : List Piece) :
    outline (p :: ps) = outline [p] ++ outline ps := by
  rw [outline, outline, outline, ← List.map_append, ← List.filter_append]
  rfl

end Piece

namespace Card

/-- What stands in front of the code on a card. -/
def front (c : Card) : List Piece :=
  match c.body with
  | .code _ =>
    opening "div" (attributes c.width c.id c.mode) ::
      (block "model-caption" [.text c.name] ++ [opening "div" [("class", "model-code")]])
  | _ => []

/-- What stands behind the code on a card; all of a card without code. -/
def back (c : Card) : List Piece :=
  match c.body with
  | .code _ => closing "div" :: ending c.mode
  | _ => c.pieces

/-- The code on a card. -/
def inserted (c : Card) : List Char :=
  match c.body with
  | .code html => (html.getD "").toList
  | _ => []

theorem toList_html_eq (c : Card) :
    c.html.toList = write c.front ++ c.inserted ++ write c.back := by
  obtain ⟨id, name, mode, width, body⟩ := c
  cases body with
  | preview names => simp [toList_html, front, inserted, back]
  | table rows => simp [toList_html, front, inserted, back]
  | code html =>
    simp [toList_html, front, inserted, back, pieces_eq, CardBody.pieces, block, within, render]

theorem write_unlit (c : Card) : write c.unlit.pieces = write c.front ++ write c.back := by
  obtain ⟨id, name, mode, width, body⟩ := c
  cases body with
  | preview names => rfl
  | table rows => rfl
  | code html =>
    simp [unlit, CardBody.unlit, front, back, pieces_eq, CardBody.pieces, block, within, render]

theorem allowed_front (c : Card) : ∀ p ∈ c.front, p.part.IsAllowed := by
  obtain ⟨id, name, mode, width, body⟩ := c
  cases body with
  | preview names => exact nofun
  | table rows => exact nofun
  | code html =>
    intro p h
    rcases List.mem_cons.1 h with rfl | h
    · exact isAllowed_part_opening (by decide) (by simp [attributes, Html.attributeNames])
    rcases List.mem_append.1 h with h | h
    · exact ((Laid.own name).block "model-caption").allowed p h
    · obtain rfl := List.mem_singleton.1 h
      exact isAllowed_part_opening (by decide) (by simp [Html.attributeNames])

/-- The tag of a card tells its id in the value that is hidden. -/
theorem outline_opening (w : Width) (id : String) (m : Mode) :
    outline [opening "div" (attributes w id m)] = outline [opening "div" (attributes w "" m)] := by
  have hidden : hide idKey (opening "div" (attributes w id m)).part =
      hide idKey (opening "div" (attributes w "" m)).part := by
    simp only [part, attributes, hide, List.map_cons, List.map_nil, idKey, if_true]
  exact congrArg ([·]) hidden

theorem outline_unlit (c : Card) : outline c.unlit.pieces = outline c.blank.pieces := by
  rw [outline, c.laid.tags, ← outline, pieces_eq, pieces_eq, outline_cons, outline_opening,
    outline_cons (opening _ _)]
  rfl

theorem outline_front (c : Card) : outline c.front = outline c.blank.front := by
  obtain ⟨id, name, mode, width, body⟩ := c
  cases body with
  | preview names => rfl
  | table rows => rfl
  | code html =>
    rw [front, blank, front, outline_cons, outline_opening, outline_cons (opening _ _)]
    rfl

/-- What the markup of a card shows in front of its code, and what it shows without its code. -/
structure Shows (c : Card) (front whole : Sequence) : Prop where
  written : ∃ before after, c.html.toList = before ++ c.inserted ++ after ∧
    read .text before = some front ∧ read .text (before ++ after) = some whole
  nested : nest [] whole.tags = some []
  lead : whole.lead = []
  texts : whole.texts.map Text.unescapeChars = c.slots.map (·.string.toList)
  own : c.slots.filterMap own? = c.strings
  id : (whole.tags.flatMap (values idKey)).map Text.unescapeChars = [c.id.toList]

theorem Shows.read_html {c : Card} {front whole : Sequence} (h : c.Shows front whole)
    (none : c.inserted = []) : read .text c.html.toList = some whole := by
  obtain ⟨before, after, written, -, told⟩ := h.written
  rw [written, none, List.append_nil, told]

theorem exists_shows (c : Card) : ∃ front whole, c.Shows front whole ∧
    front.tags.map (hide idKey) = outline c.blank.front ∧
    whole.tags.map (hide idKey) = outline c.blank.pieces := by
  have tags (ps : List Piece) :
      (Sequence.behind (ps.map part) {}).tags = (ps.map part).filter isTag := by
    rw [Sequence.tags_behind]
    exact List.append_nil _
  refine ⟨.behind (c.front.map part) {}, .behind (c.unlit.pieces.map part) {}, ?_, ?_, ?_⟩
  · constructor
    · refine ⟨write c.front, write c.back, c.toList_html_eq, read_write c.allowed_front, ?_⟩
      rw [← write_unlit, read_write c.laid.allowed]
    · rw [tags, Html.Part.nest_filter_isTag]
      simpa [nest] using c.laid.nested [] []
    · exact c.laid.lead {} rfl
    · rw [c.laid.texts {} rfl]
      simp [Sequence.texts, escaped, Text.unescapeChars_escapeChars]
    · exact c.filterMap_own_slots
    · rw [tags, Html.Part.flatMap_values_filter_isTag, flatMap_values_part, ids_pieces]
      simp [unlit, Text.unescapeChars_escapeChars]
  · rw [tags, ← outline_front, outline]
  · rw [tags, ← outline_unlit, outline]

end Card

/-- Two cards of one form are read as the same tags but for their ids, and the tags are properly
nested. The texts between them are the same labels, and the strings of each card in order. If the
cards show code, this is so around the code, which stands in the same place of both. -/
theorem alike_cards_differ_in_strings {c k : Card} (h : c.Alike k) :
    ∃ front whole front' whole', c.Shows front whole ∧ k.Shows front' whole' ∧
      front.tags.map (hide idKey) = front'.tags.map (hide idKey) ∧
      whole.tags.map (hide idKey) = whole'.tags.map (hide idKey) ∧
      c.slots.map Slot.blank = k.slots.map Slot.blank := by
  obtain ⟨front, whole, shows, hf, hw⟩ := c.exists_shows
  obtain ⟨front', whole', shows', hf', hw'⟩ := k.exists_shows
  have form : c.blank = k.blank := h
  refine ⟨front, whole, front', whole', shows, shows', ?_, ?_, ?_⟩
  · rw [hf, hf', form]
  · rw [hw, hw', form]
  · rw [← c.slots_blank, ← k.slots_blank, form]

/-- A table of one field with one constraint. -/
def tableOf (id name field constraint : String) : Card :=
  (⟨id, name, {}, [⟨field, "T", false, [constraint], [], []⟩], ""⟩ : Model).card .table none .wide

/-- Strings that look like markup are told as they are, between the same tags as others. -/
theorem script_stays_text :
    (tableOf "a" "A" "f" "c").Alike (tableOf "\x22><br" "<script>" "</td>" "&lt;") ∧
    ∃ whole whole' : Sequence,
      read .text (tableOf "a" "A" "f" "c").html.toList = some whole ∧
      read .text (tableOf "\x22><br" "<script>" "</td>" "&lt;").html.toList = some whole' ∧
      whole.tags.map (hide idKey) = whole'.tags.map (hide idKey) ∧
      "<script>".toList ∈ whole'.texts.map Text.unescapeChars := by
  have alike : (tableOf "a" "A" "f" "c").Alike (tableOf "\x22><br" "<script>" "</td>" "&lt;") := by
    decide
  obtain ⟨_, whole, _, whole', shows, shows', -, tags, -⟩ := alike_cards_differ_in_strings alike
  refine ⟨alike, whole, whole', shows.read_html rfl, shows'.read_html rfl, tags, ?_⟩
  rw [shows'.texts]
  decide

end SchemaBoard
