import SchemaBoard.Board.Page
import SchemaBoard.Proofs.Html.Part
import SchemaBoard.Proofs.Text.Escape

/-!
# Pages are harmless

A piece of a page is written as allowed parts if its names are allowed; its texts and the values of
its attributes may be anything, since they are escaped. Main statement: a card is written as allowed
parts if the code on it is, whatever the model says.
-/
namespace SchemaBoard

open Html (Harmless Part tagNames attributeNames)

namespace Text

theorem quotable_escapeChars (cs : List Char) : Part.IsQuotable (escapeChars cs) := by
  have h := isEscaped_escapeChars cs
  exact ⟨h.quot, h.lt, h.gt⟩

end Text

namespace Piece

theorem renderAttribute_eq (a : String × String) :
    renderAttribute a = Part.writeAttribute (a.1, Text.escapeChars a.2.toList) := by
  simp [renderAttribute, Part.writeAttribute]

/-- The part of markup that a piece is written as. -/
def part : Piece → Part
  | .opening name attributes =>
    .opening name (attributes.map fun a => (a.1, Text.escapeChars a.2.toList))
  | .closing name => .closing name
  | .text s => .text (Text.escapeChars s.toList)
  | .markup html => .text html.toList

theorem write_part (p : Piece) : p.part.write = p.render := by
  cases p with
  | opening name attributes =>
    simp [part, render, Part.write, List.flatMap_map, funext renderAttribute_eq]
  | closing name => rfl
  | text s => rfl
  | markup html => rfl

/-- A piece with allowed names; markup that is written as it is must be harmless itself. -/
def IsAllowed : Piece → Prop
  | .opening name attributes => name ∈ tagNames ∧ ∀ a ∈ attributes, a.1 ∈ attributeNames
  | .closing name => name ∈ tagNames
  | .text _ => True
  | .markup html => Harmless html.toList

theorem isAllowed_part_opening {name : String} {attributes : List (String × String)}
    (hn : name ∈ tagNames) (ha : ∀ a ∈ attributes, a.1 ∈ attributeNames) :
    (Piece.opening name attributes).part.IsAllowed := by
  refine ⟨hn, fun a h => ?_⟩
  obtain ⟨b, hb, rfl⟩ := List.mem_map.1 h
  exact ⟨ha b hb, Text.quotable_escapeChars b.2.toList⟩

theorem harmless_render {p : Piece} (h : p.IsAllowed) : Harmless p.render := by
  cases p with
  | opening name attributes =>
    rw [← write_part]
    exact .part (isAllowed_part_opening h.1 h.2)
  | closing name => exact .part (p := .closing name) h
  | text s => exact .part (p := .text _) (Text.quotable_escapeChars s.toList).2
  | markup html => exact h

/-- Pieces that are all allowed. -/
def AllAllowed (ps : List Piece) : Prop := ∀ p ∈ ps, p.IsAllowed

namespace AllAllowed

variable {ps qs : List Piece}

theorem nil : AllAllowed [] := nofun

theorem append (hp : AllAllowed ps) (hq : AllAllowed qs) : AllAllowed (ps ++ qs) := by
  intro p h
  rcases List.mem_append.1 h with h | h
  · exact hp p h
  · exact hq p h

theorem flatMap {α : Type} {f : α → List Piece} (h : ∀ x, AllAllowed (f x)) (xs : List α) :
    AllAllowed (xs.flatMap f) := by
  intro p hp
  obtain ⟨x, -, hx⟩ := List.mem_flatMap.1 hp
  exact h x p hx

theorem text (s : String) : AllAllowed [.text s] := by
  intro p h
  obtain rfl := List.mem_singleton.1 h
  trivial

theorem within {name : String} {attributes : List (String × String)} (hn : name ∈ tagNames)
    (ha : ∀ a ∈ attributes, a.1 ∈ attributeNames) (hp : AllAllowed ps) :
    AllAllowed (Piece.within name attributes ps) := by
  intro p h
  rcases List.mem_cons.1 h with rfl | h
  · exact ⟨hn, ha⟩
  rcases List.mem_append.1 h with h | h
  · exact hp p h
  · obtain rfl := List.mem_singleton.1 h
    exact hn

theorem block (label : String) (hp : AllAllowed ps) : AllAllowed (Piece.block label ps) :=
  hp.within (by decide) (by simp [attributeNames])

end AllAllowed
end Piece

open Piece

/-! ## Pieces written one after the other -/

namespace Piece

def write (ps : List Piece) : List Char := ps.flatMap render

@[simp] theorem write_nil : write [] = [] := rfl

@[simp] theorem write_cons (p : Piece) (ps : List Piece) : write (p :: ps) = p.render ++ write ps :=
  rfl

@[simp] theorem write_append (ps qs : List Piece) : write (ps ++ qs) = write ps ++ write qs :=
  List.flatMap_append

theorem write_flatMap {α : Type} (f : α → List Piece) (xs : List α) :
    write (xs.flatMap f) = xs.flatMap fun x => write (f x) := by
  simp [write, List.flatMap_assoc]

theorem write_within (name : String) (attributes : List (String × String)) (ps : List Piece) :
    write (within name attributes ps) =
      (opening name attributes).render ++ (write ps ++ (closing name).render) := by
  simp [within]

end Piece

namespace Card

theorem toList_html (c : Card) : c.html.toList = write c.pieces := String.toList_ofList

/-- The attributes of a card. -/
def attributes (w : Width) (id : String) (m : Mode) : List (String × String) :=
  [("class", "model-card model-card--" ++ w.name), ("data-model-id", id), ("data-mode", m.name),
    ("data-span", toString w.columns)]

/-- What stands behind the body of a card. -/
def ending (m : Mode) : List Piece :=
  block "model-controls" (Control.all.flatMap (Control.pieces m)) ++ [closing "div"]

theorem pieces_eq (c : Card) : c.pieces =
    opening "div" (attributes c.width c.id c.mode) ::
      (block "model-caption" [.text c.name] ++ (c.body.pieces ++ ending c.mode)) := by
  simp [pieces, within, ending, attributes]

end Card

/-! ## Harmless pages -/

theorem harmless_renderPieces {ps : List Piece} (h : AllAllowed ps) :
    Harmless (renderPieces ps).toList := by
  rw [renderPieces, String.toList_ofList]
  exact .flatMap fun p hp => harmless_render (h p hp)

theorem allAllowed_entryLines (entries : List String) : AllAllowed (entryLines entries) :=
  .flatMap (fun e => (AllAllowed.text e).within (by decide) (by simp)) entries

theorem Row.allAllowed_pieces (r : Row) : AllAllowed r.pieces := by
  have cell {ps : List Piece} (attributes : List (String × String))
      (ha : ∀ a ∈ attributes, a.1 ∈ attributeNames) (hp : AllAllowed ps) :
      AllAllowed (Piece.within "td" attributes ps) := hp.within (by decide) ha
  have emphasis : ∀ a ∈ if r.isEmphasized then [("class", "relation-type")] else [],
      a.1 ∈ attributeNames := by
    cases r.isEmphasized <;> simp [attributeNames]
  refine AllAllowed.within (by decide) (by simp) ?_
  have entries (es : List String) : AllAllowed (Piece.within "td" [] (entryLines es)) :=
    cell [] (by simp) (allAllowed_entryLines es)
  have names := (cell [] (by simp) (.text r.name)).append (cell _ emphasis (.text r.type))
  have lists := ((names.append (entries r.constraints)).append (entries r.relationFields)).append
    (entries r.relationReferences)
  exact lists.append (cell [] (by simp) (.text _))

theorem allAllowed_headRow : AllAllowed headRow := by
  have row : AllAllowed (headings.flatMap fun h => Piece.within "th" [] [.text h]) :=
    .flatMap (fun h => (AllAllowed.text h).within (by decide) (by simp)) headings
  exact (row.within (by decide) (by simp)).within (by decide) (by simp)

/-- Code on a card that is clean; a card that shows no code has none to be cleaned. -/
def CardBody.IsClean : CardBody → Prop
  | .code (some html) => Harmless html.toList
  | _ => True

theorem CardBody.allAllowed_pieces {b : CardBody} (h : b.IsClean) : AllAllowed b.pieces := by
  cases b with
  | preview names => exact .block _ (.flatMap (fun n => .block _ (.text n)) _)
  | table rows =>
    have body : AllAllowed (Piece.within "tbody" [] (rows.flatMap Row.pieces)) :=
      (AllAllowed.flatMap Row.allAllowed_pieces rows).within (by decide) (by simp)
    exact (allAllowed_headRow.append body).within (by decide) (by simp [attributeNames])
  | code html =>
    refine .block _ fun p hp => ?_
    obtain rfl := List.mem_singleton.1 hp
    cases html with
    | none => exact .nil
    | some html => exact h

theorem Control.allAllowed_pieces (shown : Mode) (c : Control) : AllAllowed (c.pieces shown) :=
  (AllAllowed.text c.label).within (by decide) (by simp [attributeNames])

theorem Card.allAllowed_pieces {c : Card} (h : c.body.IsClean) : AllAllowed c.pieces := by
  have caption := (AllAllowed.text c.name).block "model-caption"
  have controls := (AllAllowed.flatMap (Control.allAllowed_pieces c.mode) Control.all).block
    "model-controls"
  exact ((caption.append (CardBody.allAllowed_pieces h)).append controls).within (by decide)
    (by simp [attributeNames])

/-- A board of cards with clean code is harmless. -/
theorem harmless_boardHtml {cards : List Card} (h : ∀ c ∈ cards, c.body.IsClean) :
    Harmless (boardHtml cards).toList := by
  refine harmless_renderPieces (.block _ fun p hp => ?_)
  obtain ⟨c, hc, hp⟩ := List.mem_flatMap.1 hp
  exact Card.allAllowed_pieces (h c hc) p hp

end SchemaBoard
