import Mathlib.Data.Set.List
import SchemaBoard.Proofs.Board.Page
import SchemaBoard.Proofs.Text.Delimited
import SchemaBoard.Proofs.Text.Escape

/-!
# Cards are told apart by their markup

Every text on a card ends at the tag behind it, and every value at its quote, since neither is left
in escaped text; a list of entries, rows or cards ends at a closing tag, and none of its items
begins with one. So whatever follows, the markup of a card without code shows the card and its end.
Code is markup of any kind, but there is only one piece of it on a card, with the same behind it on
all cards that show code. Main statement: `markup_tells_cards_apart`.
-/
namespace SchemaBoard

open Text (IsDelimited)

namespace Piece

/-- The pieces show what was written in them and where they end. -/
def IsTold {α : Type} (f : α → List Piece) : Prop := IsDelimited fun a => write (f a)

/-- No closing tag stands first. -/
def StartsOpen (ps : List Piece) : Prop := ∀ x y, write ps ++ x ≠ '<' :: '/' :: y

end Piece

open Piece

theorem Text.escapeToList_injective :
    Function.Injective fun s : String => Text.escapeChars s.toList := by
  intro s t h
  exact String.toList_injective (Text.escapeChars_injective h)

/-- The value of an attribute ends at its quote. -/
theorem isDelimited_attribute (name : String) :
    IsDelimited fun value => renderAttribute (name, value) := by
  have value := IsDelimited.upTo Text.escapeToList_injective
    fun s => (Text.quotable_escapeChars s.toList).1
  have written := value.cons (' ' :: name.toList ++ ['=', '\x22'])
  simpa [renderAttribute] using written

namespace Piece.IsTold

variable {α β : Type} {f : α → List Piece} {g : β → List Piece}

theorem append (hf : IsTold f) (hg : IsTold g) : IsTold fun p : α × β => f p.1 ++ g p.2 := by
  simpa [IsTold] using IsDelimited.append hf hg

theorem comp (hf : IsTold f) {h : β → α} (inj : Function.Injective h) : IsTold fun b => f (h b) :=
  IsDelimited.comp hf inj

/-- The same pieces may stand in front. -/
theorem behind (hf : IsTold f) (ps : List Piece) : IsTold fun a => ps ++ f a := by
  simpa [IsTold] using IsDelimited.cons hf (write ps)

theorem within (hf : IsTold f) (name : String) (attributes : List (String × String)) :
    IsTold fun a => Piece.within name attributes (f a) := by
  simpa [IsTold, write_within] using
    (IsDelimited.concat hf (closing name).render).cons (opening name attributes).render

/-- A text ends at the closing tag of its element. -/
theorem text (name : String) (attributes : List (String × String)) :
    IsTold fun s : String => Piece.within name attributes [.text s] := by
  have upTo := IsDelimited.upTo Text.escapeToList_injective
    fun s => (Text.quotable_escapeChars s.toList).2.1
  have written := (upTo.concat ('/' :: name.toList ++ ['>'])).cons (opening name attributes).render
  simpa [IsTold, write_within, render] using written

/-- A list of elements ends at the closing tag of the element that they are in. -/
theorem flatMap (hf : IsTold f) (starts : ∀ a, StartsOpen (f a)) (name : String)
    (attributes : List (String × String)) :
    IsTold fun as : List α => Piece.within name attributes (as.flatMap f) := by
  have apart (a : α) (x y : List Char) : write (f a) ++ x ≠ (closing name).render ++ y :=
    starts a x (name.toList ++ ['>'] ++ y)
  have ends := (IsDelimited.items hf apart).cons (opening name attributes).render
  simpa [IsTold, write_within, write_flatMap] using ends

end Piece.IsTold

/-! ## Tables -/

theorem startsOpen_within {name : String} {c : Char} {cs : List Char} (hn : name.toList = c :: cs)
    (hc : c ≠ '/') (attributes : List (String × String)) (ps : List Piece) :
    StartsOpen (within name attributes ps) := by
  intro x y e
  simp only [write_within, render, hn, List.cons_append, List.cons.injEq, true_and] at e
  exact hc e.1

theorem isTold_entries (name : String) : IsTold fun es => within name [] (entryLines es) :=
  (IsTold.text "div" []).flatMap (fun e => startsOpen_within rfl (by decide) [] [.text e]) name []

/-- The type of a field, which stands out or not. -/
def typeCell (b : Bool) (type : String) : List Piece :=
  within "td" (if b then [("class", "relation-type")] else []) [.text type]

theorem isTold_typeCell : IsTold fun p : Bool × String => typeCell p.1 p.2 := by
  have opened : IsDelimited fun b : Bool =>
      if b then (opening "td" [("class", "relation-type")]).render
      else (opening "td" []).render := by
    refine IsDelimited.ofBool fun x y e => ?_
    simp [render, renderAttribute] at e
  have upTo := IsDelimited.upTo Text.escapeToList_injective
    fun s => (Text.quotable_escapeChars s.toList).2.1
  have written := opened.append (upTo.concat ('/' :: "td".toList ++ ['>']))
  have same : (fun p : Bool × String => write (typeCell p.1 p.2)) = fun p =>
      (if p.1 then (opening "td" [("class", "relation-type")]).render
        else (opening "td" []).render) ++
      (Text.escapeChars p.2.toList ++ ['<'] ++ ('/' :: "td".toList ++ ['>'])) := by
    funext p
    cases p.1 <;> simp [typeCell, write_within, render]
  rw [IsTold, same]
  exact written

theorem isTold_flag :
    IsTold fun b : Bool => within "td" [] [.text (if b then "true" else "false")] :=
  (IsTold.text "td" []).comp (h := fun b : Bool => if b then "true" else "false") <| by
    intro a b e
    cases a <;> cases b <;> simp_all

theorem Row.isTold : IsTold Row.pieces := by
  have lists := (((IsTold.text "td" []).append isTold_typeCell).append (isTold_entries "td")).append
    (isTold_entries "td")
  have cells := (lists.append (isTold_entries "td")).append isTold_flag
  have fields : Function.Injective fun r : Row => (((((r.name, (r.isEmphasized, r.type)),
      r.constraints), r.relationFields), r.relationReferences), r.isIndex) := by
    rintro ⟨⟩ ⟨⟩ e
    simp only [Prod.mk.injEq] at e
    simp [e]
  have told := (cells.within "tr" []).comp fields
  exact told

/-! ## Bodies -/

theorem isTold_preview : IsTold fun names => (CardBody.preview names).pieces := by
  have rows := (IsTold.text "div" [("class", "preview-row")]).flatMap
    (fun n => startsOpen_within rfl (by decide) _ [.text n]) "div" [("class", "model-preview")]
  have ellipsis : Function.Injective fun names : List String => names ++ ["..."] :=
    fun _ _ e => List.append_cancel_right e
  exact rows.comp ellipsis

theorem isTold_table : IsTold fun rows => (CardBody.table rows).pieces := by
  have rows := Row.isTold.flatMap (fun r => startsOpen_within rfl (by decide) _ _) "tbody" []
  exact (rows.behind headRow).within "table" [("class", "model-fields")]

/-! ## Cards -/

namespace Card

theorem isDelimited_opening : IsDelimited fun h : Width × String × Mode =>
    (opening "div" (attributes h.1 h.2.1 h.2.2)).render := by
  have shown := (isDelimited_attribute "data-mode").append (isDelimited_attribute "data-span")
  have values := (isDelimited_attribute "class").append
    ((isDelimited_attribute "data-model-id").append shown)
  have told : Function.Injective fun h : Width × String × Mode =>
      ("model-card model-card--" ++ h.1.name, h.2.1, h.2.2.name, toString h.1.columns) := by
    rintro ⟨w, id, m⟩ ⟨v, k, n⟩ e
    simp only [Prod.mk.injEq] at e
    obtain ⟨width, rfl, mode, -⟩ := e
    obtain rfl : w = v := by
      revert width
      cases w <;> cases v <;> decide
    obtain rfl : m = n := by
      revert mode
      cases m <;> cases n <;> decide
    rfl
  have written := ((values.comp told).concat ['>']).cons ('<' :: "div".toList)
  simpa [render, attributes] using written

theorem write_pieces (c : Card) : write c.pieces =
    (opening "div" (attributes c.width c.id c.mode)).render ++
      write (block "model-caption" [.text c.name]) ++
        (write c.body.pieces ++ write (ending c.mode)) := by
  simp [pieces_eq]

/-- What stands before the body shows the same of both cards. -/
theorem body_of_same_markup {c k : Card} {x y : List Char}
    (e : write c.pieces ++ x = write k.pieces ++ y) :
    c.width = k.width ∧ c.id = k.id ∧ c.mode = k.mode ∧ c.name = k.name ∧
      write c.body.pieces ++ (write (ending k.mode) ++ x) =
        write k.body.pieces ++ (write (ending k.mode) ++ y) := by
  have caption : IsTold fun s => block "model-caption" [.text s] := IsTold.text "div" _
  have front := isDelimited_opening.append caption
  simp only [write_pieces, List.append_assoc] at e
  obtain ⟨same, rest⟩ := front ((c.width, c.id, c.mode), c.name) ((k.width, k.id, k.mode), k.name)
    _ _ (by simpa only [List.append_assoc] using e)
  simp only [Prod.mk.injEq] at same
  obtain ⟨⟨width, id, mode⟩, name⟩ := same
  rw [mode] at rest
  exact ⟨width, id, mode, name, rest⟩

/-- An absent piece of code counts as an empty one. -/
def filled (c : Card) : Card :=
  { c with body := match c.body with
      | .code html => .code (some (html.getD ""))
      | body => body }

theorem pieces_filled (c : Card) : c.filled.pieces = c.pieces := by
  obtain ⟨id, name, mode, width, body⟩ := c
  cases body <;> rfl

/-- A card of a model that shows no code. -/
def ShowsNoCode (c : Card) : Prop :=
  ∃ (m : Model) (p : Mode) (h : Option String) (w : Width), p ≠ .code ∧ c = m.card p h w

/-- Whatever follows, the markup of a card without code shows the card. -/
theorem eq_of_same_markup {c k : Card} (hc : c.ShowsNoCode) (hk : k.ShowsNoCode) {x y : List Char}
    (e : write c.pieces ++ x = write k.pieces ++ y) : c = k ∧ x = y := by
  obtain ⟨m, p, h, w, hp, rfl⟩ := hc
  obtain ⟨n, q, l, v, hq, rfl⟩ := hk
  obtain ⟨width, id, mode, name, bodies⟩ := body_of_same_markup e
  obtain rfl : p = q := mode
  have same {α : Type} {f : α → List Piece} {a b : α} (told : IsTold f)
      (e : write (f a) ++ (write (ending p) ++ x) = write (f b) ++ (write (ending p) ++ y)) :
      a = b ∧ x = y := by
    obtain ⟨same, rest⟩ := told a b _ _ e
    exact ⟨same, List.append_cancel_left rest⟩
  cases p with
  | code => exact absurd rfl hp
  | collapsed =>
    obtain ⟨names, rest⟩ := same isTold_preview bodies
    exact ⟨by simp_all [Model.card, Model.body], rest⟩
  | table =>
    obtain ⟨rows, rest⟩ := same isTold_table bodies
    exact ⟨by simp_all [Model.card, Model.body], rest⟩

theorem filled_of_same_markup {m n : Model} {p q : Mode} {h l : Option String} {w v : Width}
    (e : write (m.card p h w).pieces = write (n.card q l v).pieces) :
    (m.card p h w).filled = (n.card q l v).filled := by
  have ends : write (m.card p h w).pieces ++ [] = write (n.card q l v).pieces ++ [] := by simpa
  obtain ⟨width, id, mode, name, bodies⟩ := body_of_same_markup ends
  obtain rfl : p = q := mode
  by_cases hp : p = .code
  · subst hp
    have htmls : (h.getD "").toList = (l.getD "").toList := by
      simpa [Model.card, Model.body, CardBody.pieces, write_within, block, render] using bodies
    simp_all [Model.card, Model.body, filled, String.toList_inj]
  · rw [(eq_of_same_markup ⟨m, p, h, w, hp, rfl⟩ ⟨n, p, l, v, hp, rfl⟩ ends).1]

/-- Cards without code, one after the other, are told apart. -/
theorem flatMap_html_inj {cs ks : List Card} (hc : ∀ c ∈ cs, c.ShowsNoCode)
    (hk : ∀ k ∈ ks, k.ShowsNoCode)
    (e : cs.flatMap (·.html.toList) = ks.flatMap (·.html.toList)) : cs = ks := by
  have told : IsDelimited fun c : {c : Card // c.ShowsNoCode} => c.1.html.toList := by
    intro c k x y e
    simp only [toList_html] at e
    obtain ⟨same, rest⟩ := eq_of_same_markup c.2 k.2 e
    exact ⟨Subtype.ext same, rest⟩
  have held (c : {c : Card // c.ShowsNoCode}) : c.1.html.toList ≠ [] := by
    simp [toList_html, write_pieces, render]
  lift cs to List {c : Card // c.ShowsNoCode} using hc
  lift ks to List {c : Card // c.ShowsNoCode} using hk
  rw [List.flatMap_map, List.flatMap_map] at e
  rw [told.flatMap_injective held e]

end Card

theorem toList_boardHtml (cs : List Card) : (boardHtml cs).toList =
    (opening "div" [("class", "schema-grid")]).render ++
      (cs.flatMap (·.html.toList) ++ (closing "div").render) := by
  have written : (boardHtml cs).toList = write (block "schema-grid" (cs.flatMap Card.pieces)) :=
    String.toList_ofList
  simp only [written, block, write_within, write_flatMap, Card.toList_html]

/-- Two cards of models are written alike exactly if they are the same, but for code that is absent
from one and empty on the other. Of cards without code this holds for any number of them, written
one after the other or as a board. -/
theorem markup_tells_cards_apart :
    (∀ (m n : Model) (p q : Mode) (h l : Option String) (w v : Width),
      (m.card p h w).html = (n.card q l v).html ↔
        (m.card p h w).filled = (n.card q l v).filled) ∧
    ∀ cs ks : List Card, (∀ c ∈ cs, c.ShowsNoCode) → (∀ k ∈ ks, k.ShowsNoCode) →
      (cs.flatMap (·.html.toList) = ks.flatMap (·.html.toList) ↔ cs = ks) ∧
      (boardHtml cs = boardHtml ks ↔ cs = ks) := by
  refine ⟨fun m n p q h l w v => ⟨fun e => ?_, fun e => ?_⟩, fun cs ks hc hk => ?_⟩
  · apply Card.filled_of_same_markup
    rw [← Card.toList_html, ← Card.toList_html, e]
  · rw [Card.html, Card.html, ← Card.pieces_filled, e, Card.pieces_filled]
  · refine ⟨⟨Card.flatMap_html_inj hc hk, congrArg _⟩, ⟨fun e => ?_, congrArg _⟩⟩
    have written := congrArg String.toList e
    rw [toList_boardHtml, toList_boardHtml, List.append_cancel_left_eq,
      List.append_cancel_right_eq] at written
    exact Card.flatMap_html_inj hc hk written

/-- A table of one field with some constraints. -/
def constrained (entries : List String) : Card :=
  (⟨"a", "A", {}, [⟨"f", "T", false, entries, [], []⟩], ""⟩ : Model).card .table none .wide

theorem showsNoCode_constrained (entries : List String) :
    ∀ c ∈ [constrained entries], c.ShowsNoCode := by
  intro c hc
  obtain rfl := List.mem_singleton.1 hc
  exact ⟨_, _, _, _, by decide, rfl⟩

/-- An empty list, an empty entry and an entry that looks like markup are not written alike. -/
theorem entries_told_apart : boardHtml [constrained []] ≠ boardHtml [constrained [""]] ∧
    boardHtml [constrained ["", ""]] ≠ boardHtml [constrained ["</div><div>"]] := by
  have apart {es fs : List String} (different : [constrained es] ≠ [constrained fs]) :
      boardHtml [constrained es] ≠ boardHtml [constrained fs] :=
    mt (markup_tells_cards_apart.2 _ _ (showsNoCode_constrained es)
      (showsNoCode_constrained fs)).2.1 different
  exact ⟨apart (by decide), apart (by decide)⟩

end SchemaBoard
