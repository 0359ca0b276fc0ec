import SchemaBoard.Proofs.Html.Growth
import SchemaBoard.Proofs.Html.Token

/-!
# Builders that read clean markup

While nothing but clean markup was read, and every closing tag closed the innermost element, the
rules come down to little: a tag opens or closes an element and does nothing else. No paragraph is
open that a block would close, and the formatting elements that are marked are open, so there is
none to open again or to split. Main statements: `Calm.feed_text`, `Calm.feed_lineBreak`,
`Calm.feed_opening`, `Calm.feed_closing`.
-/
namespace SchemaBoard.Html.Builder

/-- The marks of a list are for some of the open elements, in the order of these. -/
inductive Marked : List OpenElement → List Mark → Prop where
  | nil : Marked [] []
  | skip {opened : List OpenElement} {marks : List Mark} (e : OpenElement)
      (h : Marked opened marks) : Marked (e :: opened) marks
  | mark {opened : List OpenElement} {marks : List Mark} (e : OpenElement) {tag : Tag}
      (kind : e.kind = htmlKind "code") (name : tag.name = "code") (h : Marked opened marks) :
      Marked (e :: opened) (.element e.id tag :: marks)

namespace Marked

variable {opened : List OpenElement} {marks : List Mark}

theorem none : (opened : List OpenElement) → Marked opened []
  | [] => .nil
  | e :: opened => .skip e (none opened)

theorem filter (h : Marked opened marks) (p : Mark → Bool) : Marked opened (marks.filter p) := by
  induction h with
  | nil => exact .nil
  | skip e h ih => exact .skip e ih
  | mark e kind name h ih =>
    rw [List.filter_cons]
    split
    · exact .mark e kind name ih
    · exact .skip e ih

theorem exists_open (h : Marked opened marks) {m : Mark} (hm : m ∈ marks) :
    ∃ e ∈ opened, ∃ tag, m = .element e.id tag := by
  induction h with
  | nil => cases hm
  | skip e h ih =>
    obtain ⟨o, ho, tag, rfl⟩ := ih hm
    exact ⟨o, List.mem_cons_of_mem e ho, tag, rfl⟩
  | mark e kind name h ih =>
    rcases List.mem_cons.1 hm with rfl | hm
    · exact ⟨e, List.mem_cons_self, _, rfl⟩
    · obtain ⟨o, ho, tag, rfl⟩ := ih hm
      exact ⟨o, List.mem_cons_of_mem e ho, tag, rfl⟩

/-- No mark is for an element that is not open. -/
theorem isFor_eq_false (h : Marked opened marks) {id : Nat} (fresh : ∀ e ∈ opened, e.id ≠ id) :
    ∀ m ∈ marks, m.isFor id = false := by
  intro m hm
  obtain ⟨e, he, tag, rfl⟩ := h.exists_open hm
  simpa [Mark.isFor] using fresh e he

end Marked

theorem reaches_eq_false (stop : Kind → Bool) {target : OpenElement → Bool}
    {opened : List OpenElement} (free : ∀ o ∈ opened, target o = false) :
    reaches stop target opened = false := by
  induction opened with
  | nil => rfl
  | cons o opened ih =>
    rw [reaches, free o List.mem_cons_self, ih fun x hx => free x (List.mem_cons_of_mem o hx)]
    simp

/-- The builder has read nothing but clean markup; `e` is the innermost open element. -/
structure Calm (b : Builder) (e : OpenElement) (outer : List OpenElement) : Prop where
  opened : b.opened = e :: outer
  mode : b.mode = .body
  content : b.content = .data
  fostering : b.fostering = false
  /-- The root is open, and elements of the kept kinds. -/
  kinds : ∀ o ∈ b.opened, o.kind = htmlKind "html" ∨ ∃ tag : KeptTag, o.kind = htmlKind tag.name
  below : ∀ o ∈ b.opened, o.id < b.dom.nodes.size
  distinct : (b.opened.map (·.id)).Nodup
  marked : Marked b.opened b.marks

namespace Calm

variable {b : Builder} {e : OpenElement} {outer : List OpenElement}

theorem mem_opened (c : Calm b e outer) : e ∈ b.opened := by
  rw [c.opened]
  exact List.mem_cons_self

/-- What the rules of the kept kinds ask of the open elements. -/
theorem forall_kind (c : Calm b e outer) {P : Kind → Prop} (root : P (htmlKind "html"))
    (kept : ∀ tag : KeptTag, P (htmlKind tag.name)) : ∀ o ∈ b.opened, P o.kind := by
  intro o ho
  rcases c.kinds o ho with h | ⟨tag, h⟩
  · exact h ▸ root
  · exact h ▸ kept tag

theorem reopen (c : Calm b e outer) : b.reopen = b := by
  have none : b.closedMarks b.marks = [] := by
    cases hm : b.marks with
    | nil => rfl
    | cons m marks =>
      obtain ⟨o, ho, tag, rfl⟩ := c.marked.exists_open (hm ▸ List.mem_cons_self)
      have isOpen : b.isOpen o.id = true := List.any_eq_true.2 ⟨o, ho, by simp⟩
      rw [closedMarks, if_pos isOpen]
  rw [Builder.reopen, none]
  rfl

theorem endParagraph (c : Calm b e outer) : b.endParagraph = b := by
  have free : ∀ o ∈ b.opened, o.kind.isNamed "p" = false :=
    c.forall_kind (P := fun k => k.isNamed "p" = false) (by decide)
      fun tag => by cases tag <;> decide
  have none : b.hasParagraph = false := reaches_eq_false _ free
  rw [Builder.endParagraph, none]
  rfl

theorem addNode (c : Calm b e outer) (m : Matter) :
    b.addNode m = { b with dom := b.dom.hang e.id m } := by
  have here : b.place = .inside e.id := by
    simp [place, c.opened, placeUnder, c.fostering]
  rw [Builder.addNode, here]
  rfl

theorem vocabulary (c : Calm b e outer) : e.kind.vocabulary = .html :=
  c.forall_kind (P := fun k => k.vocabulary = .html) rfl (fun _ => rfl) e c.mem_opened

theorem inForeign (c : Calm b e outer) : b.inForeign = false := by
  simp [Builder.inForeign, c.opened, c.vocabulary]

/-- A token is read under the rules of running content. -/
theorem settle (c : Calm b e outer) (t : Token) : Builder.settle b.patience t b = b.readBody t := by
  have native : b.isForeign t = false := by simp [isForeign, c.opened, c.vocabulary]
  have step : Builder.settle (2 * b.opened.length + 15 + 1) t b = b.readBody t := by
    rw [Builder.settle, native]
    simp [Builder.read, c.mode]
  exact step

/-- The text is read token by token. -/
theorem run_of_next? (c : Calm b e outer) {cs rest : List Char} {t : Token}
    (h : Scan.next? .data false cs = some (t, rest)) : b.run cs = (b.feed t).run rest := by
  rw [← c.content, ← c.inForeign] at h
  rw [run]
  split
  · rename_i none
    rw [h] at none
    cases none
  · rename_i t' rest' some
    rw [h] at some
    cases some
    rfl

/-- Whether a line feed is left out next makes no difference to anything else. -/
theorem awaiting (c : Calm b e outer) (skip : Bool) : Calm { b with skipFeed := skip } e outer :=
  ⟨c.opened, c.mode, c.content, c.fostering, c.kinds, c.below, c.distinct, c.marked⟩

theorem hang (c : Calm b e outer) (m : Matter) :
    Calm { b with skipFeed := false, dom := b.dom.hang e.id m } e outer where
  opened := c.opened
  mode := c.mode
  content := c.content
  fostering := c.fostering
  kinds := c.kinds
  below o ho := by
    rw [Dom.size_hang]
    exact Nat.lt_succ_of_lt (c.below o ho)
  distinct := c.distinct
  marked := c.marked

/-! ## Texts and line breaks -/

theorem feed_text (c : Calm b e outer) {chars : List Char} (held : chars ≠ [])
    (plain : ∀ x ∈ chars, IsPlain x) (line : b.skipFeed = true → chars.head? ≠ some '\n') :
    b.feed (.text chars) = { b with skipFeed := false, dom := b.dom.hang e.id (.text chars) } := by
  have shown : (if b.skipFeed && chars.head? = some '\n' then chars.tail else chars) = chars := by
    cases hs : b.skipFeed with
    | false => rfl
    | true => simp [line hs]
  have all : chars.filter (· ≠ '\x00') = chars :=
    List.filter_eq_self.2 fun x hx => decide_eq_true (plain x hx).1
  have some : chars.isEmpty = false := by simpa using held
  have read : Builder.readBody (.text chars) { b with skipFeed := false }
      = { b with skipFeed := false, dom := b.dom.hang e.id (.text chars) } := by
    simp only [readBody, all, some, Bool.false_eq_true, if_false, (c.awaiting false).reopen, addText]
    exact (c.awaiting false).addNode _
  simp only [feed, shown, some, Bool.false_eq_true, if_false]
  exact ((c.awaiting false).settle _).trans read

theorem feed_lineBreak (c : Calm b e outer) (attributes : List Attribute) :
    b.feed (.opening ⟨"br", attributes, false⟩) = { b with
      skipFeed := false
      dom := b.dom.hang e.id (.element ⟨htmlKind "br", attributes⟩) } := by
  have asks : Opening.of "br" = .leaf := by decide
  have read : Builder.readBody (.opening ⟨"br", attributes, false⟩) { b with skipFeed := false }
      = { b with
        skipFeed := false
        dom := b.dom.hang e.id (.element ⟨htmlKind "br", attributes⟩) } := by
    simp only [readBody, bodyOpening, asks, (c.awaiting false).reopen]
    exact (c.awaiting false).addNode _
  exact ((c.awaiting false).settle _).trans read

/-! ## Tags -/

theorem openTag (c : Calm b e outer) (tag : Tag) :
    b.openTag tag = { b with
      dom := b.dom.hang e.id (.element ⟨htmlKind tag.name, tag.attributes⟩)
      opened := ⟨b.dom.nodes.size, htmlKind tag.name⟩ :: b.opened } := by
  have added := c.addNode (.element ⟨htmlKind tag.name, tag.attributes⟩)
  rw [Builder.openTag, insert, addEmpty, added]
  rfl

/-- An element was opened. -/
theorem push (c : Calm b e outer) (tag : KeptTag) (m : Matter) {marks : List Mark}
    (marked : Marked (⟨b.dom.nodes.size, htmlKind tag.name⟩ :: b.opened) marks) (skip : Bool) :
    Calm { b with
      dom := b.dom.hang e.id m
      opened := ⟨b.dom.nodes.size, htmlKind tag.name⟩ :: b.opened
      marks := marks
      skipFeed := skip } ⟨b.dom.nodes.size, htmlKind tag.name⟩ b.opened where
  opened := rfl
  mode := c.mode
  content := c.content
  fostering := c.fostering
  kinds o ho := by
    rcases List.mem_cons.1 ho with rfl | ho
    · exact .inr ⟨tag, rfl⟩
    · exact c.kinds o ho
  below o ho := by
    rw [Dom.size_hang]
    rcases List.mem_cons.1 ho with rfl | ho
    · exact Nat.lt_succ_self _
    · exact Nat.lt_succ_of_lt (c.below o ho)
  distinct := by
    refine List.nodup_cons.2 ⟨fun h => ?_, c.distinct⟩
    obtain ⟨o, ho, same⟩ := List.mem_map.1 h
    exact Nat.ne_of_lt (c.below o ho) same
  marked := marked

theorem makeRoom (c : Calm b e outer) (tag : Tag) :
    Calm { b with marks := makeRoom tag b.marks } e outer := by
  have marked : Marked b.opened (Builder.makeRoom tag b.marks) := by
    unfold Builder.makeRoom
    simp only
    split
    · exact c.marked
    · exact c.marked.filter _
  exact ⟨c.opened, c.mode, c.content, c.fostering, c.kinds, c.below, c.distinct, marked⟩

theorem bodyOpening (c : Calm b e outer) (tag : KeptTag) (attributes : List Attribute) :
    ∃ g, b.bodyOpening ⟨tag.name, attributes, false⟩ = g ∧
      Calm g ⟨b.dom.nodes.size, htmlKind tag.name⟩ b.opened ∧
      g.dom = b.dom.hang e.id (.element ⟨htmlKind tag.name, attributes⟩) ∧
      (g.skipFeed = true → b.skipFeed = true ∨ tag = .pre) := by
  refine ⟨_, rfl, ?_⟩
  rw [Builder.bodyOpening]
  cases tag with
  | div =>
    have asks : Opening.of KeptTag.div.name = .block := by decide
    simp only [asks]
    rw [c.endParagraph, c.openTag]
    exact ⟨c.push .div _ (.skip _ c.marked) _, rfl, .inl⟩
  | span =>
    have asks : Opening.of KeptTag.span.name = .other := by decide
    simp only [asks]
    rw [c.reopen, c.openTag]
    exact ⟨c.push .span _ (.skip _ c.marked) _, rfl, .inl⟩
  | pre =>
    have asks : Opening.of KeptTag.pre.name = .preformatted := by decide
    simp only [asks]
    rw [c.endParagraph, c.openTag]
    exact ⟨c.push .pre _ (.skip _ c.marked) true, rfl, fun _ => .inr trivial⟩
  | code =>
    have asks : Opening.of KeptTag.code.name = .formatting := by decide
    have roomy := c.makeRoom ⟨KeptTag.code.name, attributes, false⟩
    simp only [asks]
    rw [c.reopen, openFormatting, openMarked, roomy.openTag]
    exact ⟨roomy.push .code _ (.mark ⟨b.dom.nodes.size, _⟩ rfl rfl roomy.marked) _, rfl, .inl⟩

theorem feed_opening (c : Calm b e outer) (tag : KeptTag) (attributes : List Attribute) :
    ∃ g, b.feed (.opening ⟨tag.name, attributes, false⟩) = g ∧
      Calm g ⟨b.dom.nodes.size, htmlKind tag.name⟩ b.opened ∧
      g.dom = b.dom.hang e.id (.element ⟨htmlKind tag.name, attributes⟩) ∧
      (g.skipFeed = true → tag = .pre) := by
  have ready := c.awaiting false
  obtain ⟨g, hg, calm, dom, feed⟩ := ready.bodyOpening tag attributes
  exact ⟨g, (ready.settle _).trans hg, calm, dom, fun h => (feed h).resolve_left nofun⟩

/-! ### Closing tags -/

variable {o : OpenElement}

/-- Only code is marked. -/
theorem marked_outer (c : Calm b e outer) (other : e.kind ≠ htmlKind "code") :
    Marked outer b.marks := by
  have marked := c.marked
  rw [c.opened] at marked
  generalize b.marks = marks at marked
  cases marked with
  | skip e h => exact h
  | mark e kind name h => exact absurd kind other

theorem closeBlock (c : Calm b e outer) {name : String} (named : e.kind.isNamed name = true)
    (lasting : e.kind.isImplied = false) : b.closeBlock name = { b with opened := outer } := by
  have scope : b.inScope name = true := by simp [inScope, c.opened, reaches, named]
  have kept : b.closeImplied = b := by
    rw [closeImplied, popWhile, c.opened, List.dropWhile_cons_of_neg (by simp [lasting]),
      ← c.opened]
  rw [Builder.closeBlock, if_pos scope, kept, closeNamed, popThrough, c.opened,
    List.dropWhile_cons_of_neg (by simp [named]), List.tail_cons]

theorem closeOther (c : Calm b e outer) {name : String} (named : e.kind.isNamed name = true) :
    b.closeOther name = { b with opened := outer } := by
  have near : reaches Kind.isSpecial (·.kind.isNamed name) b.opened = true := by
    simp [c.opened, reaches, named]
  rw [Builder.closeOther, if_pos near, c.opened, List.dropWhile_cons_of_neg (by simp [named]),
    List.tail_cons]

/-- Code is the innermost element when it is closed, so no element is split. -/
theorem adopt (c : Calm b e outer) (code : e.kind = htmlKind "code") :
    ∃ marks, b.adopt "code" = { b with opened := outer, marks := marks } ∧ Marked outer marks := by
  have named : e.kind.isNamed "code" = true := by
    rw [code]
    rfl
  have distinct := c.distinct
  rw [c.opened, List.map_cons, List.nodup_cons] at distinct
  have apart : ∀ x ∈ outer, x.id ≠ e.id := fun x hx same =>
    distinct.1 (List.mem_map.2 ⟨x, hx, same⟩)
  have marked := c.marked
  rw [c.opened] at marked
  generalize hm : b.marks = marks at marked
  -- Code that stands in much code of its kind has lost its mark to make room for others.
  cases marked with
  | skip e h =>
    have unmarked : b.hasMark e.id = false := by
      rw [hasMark, hm, List.any_eq_false]
      exact fun m hm => by simp [h.isFor_eq_false apart m hm]
    refine ⟨marks, ?_, h⟩
    simp [Builder.adopt, c.opened, named, unmarked, ← hm]
  | @mark _ marks e tag kind name h =>
    have hasMark : b.hasMark e.id = true := by simp [Builder.hasMark, hm, Mark.isFor]
    have latest : findMark "code" b.marks = some (e.id, tag) := by simp [hm, findMark, name]
    have near : reaches Kind.endsScope (·.id = e.id) b.opened = true := by
      simp [c.opened, reaches]
    refine ⟨_, ?_, h.filter fun m => !m.isFor e.id⟩
    have once : b.adoptOnce "code" = ({ b with
        opened := outer, marks := marks.filter fun m => !m.isFor e.id }, false) := by
      rw [adoptOnce, latest]
      simp [c.opened] at near ⊢
      simp [near, removeMark, hm, Mark.isFor]
    have rounds : adoptRounds 8 "code" b = { b with
        opened := outer, marks := marks.filter fun m => !m.isFor e.id } := by
      rw [adoptRounds, once]
    rw [Builder.adopt, c.opened]
    simp only [named, hasMark]
    exact rounds

/-- The innermost element goes, and its mark with it. -/
theorem pop (c : Calm b e (o :: outer)) {marks : List Mark} (marked : Marked (o :: outer) marks) :
    Calm { b with opened := o :: outer, marks := marks } o outer where
  opened := rfl
  mode := c.mode
  content := c.content
  fostering := c.fostering
  kinds x hx := c.kinds x (c.opened ▸ List.mem_cons_of_mem e hx)
  below x hx := c.below x (c.opened ▸ List.mem_cons_of_mem e hx)
  distinct := by
    have distinct := c.distinct
    rw [c.opened] at distinct
    exact (List.nodup_cons.1 distinct).2
  marked := marked

theorem bodyClosing (c : Calm b e (o :: outer)) {tag : KeptTag}
    (kind : e.kind = htmlKind tag.name) :
    ∃ g, b.bodyClosing tag.name = g ∧ Calm g o outer ∧ g.dom = b.dom ∧ g.skipFeed = b.skipFeed := by
  have named : e.kind.isNamed tag.name = true := by simp [kind, Kind.isNamed, htmlKind]
  refine ⟨_, rfl, ?_⟩
  rw [Builder.bodyClosing]
  cases tag with
  | div =>
    have asks : Closing.of KeptTag.div.name = .block := by decide
    have gone := c.closeBlock named (by rw [kind]; decide)
    simp only [asks]
    rw [gone]
    exact ⟨c.pop (c.marked_outer (by rw [kind]; decide)), rfl, rfl⟩
  | span =>
    have asks : Closing.of KeptTag.span.name = .other := by decide
    simp only [asks]
    rw [c.closeOther named]
    exact ⟨c.pop (c.marked_outer (by rw [kind]; decide)), rfl, rfl⟩
  | pre =>
    have asks : Closing.of KeptTag.pre.name = .block := by decide
    have gone := c.closeBlock named (by rw [kind]; decide)
    simp only [asks]
    rw [gone]
    exact ⟨c.pop (c.marked_outer (by rw [kind]; decide)), rfl, rfl⟩
  | code =>
    have asks : Closing.of KeptTag.code.name = .formatting := by decide
    obtain ⟨marks, gone, marked⟩ := c.adopt kind
    simp only [asks]
    rw [KeptTag.name, gone]
    exact ⟨c.pop marked, rfl, rfl⟩

theorem feed_closing (c : Calm b e (o :: outer)) {tag : KeptTag}
    (kind : e.kind = htmlKind tag.name) :
    ∃ g, b.feed (.closing tag.name) = g ∧ Calm g o outer ∧ g.dom = b.dom ∧ g.skipFeed = false := by
  have ready := c.awaiting false
  obtain ⟨g, hg, calm, dom, feed⟩ := ready.bodyClosing kind
  exact ⟨g, (ready.settle _).trans hg, calm, dom, feed⟩

end Calm

end SchemaBoard.Html.Builder
