import SchemaBoard.Proofs.Html.Calm

/-!
# Clean markup is kept

What cleaning writes can be cleaned again without a change, and so can all markup of its kind,
whatever stands in it: text that was written down is read as that text, tags as those tags, and the
tree that grows from them shows what was written. Two things are lost on the way to a text and are
no matter here: where one text ends and the next begins, and texts without characters. Main
statement: `clean_legible`.
-/
namespace SchemaBoard.Html

open Markup (renderAll)

/-- Whether a class is read as what it is. -/
def IsPlainLabel (label : Option String) : Prop := ∀ l ∈ label, ∀ c ∈ l.toList, IsPlain c

namespace Markup

/-- Markup that is read as what it is: its texts and classes are, and what preformatted elements
hold does not begin with a line feed, since one is left out there. -/
inductive Legible : List Markup → Prop where
  | nil : Legible []
  | text {chars : List Char} {ms : List Markup} (plain : ∀ c ∈ chars, IsPlain c)
      (rest : Legible ms) : Legible (.text chars :: ms)
  | lineBreak {label : Option String} {ms : List Markup} (plain : IsPlainLabel label)
      (rest : Legible ms) : Legible (.lineBreak label :: ms)
  | element {tag : KeptTag} {label : Option String} {inner ms : List Markup}
      (plain : IsPlainLabel label) (line : tag = .pre → (renderAll inner).head? ≠ some '\n')
      (content : Legible inner) (rest : Legible ms) : Legible (.element tag label inner :: ms)

/-- Legible markup in which every text has characters and ends where the text does. -/
inductive Tidy : List Markup → Prop where
  | nil : Tidy []
  | text {chars : List Char} {ms : List Markup} (held : chars ≠ []) (plain : ∀ c ∈ chars, IsPlain c)
      (apart : ∀ more, ms.head? ≠ some (.text more)) (rest : Tidy ms) : Tidy (.text chars :: ms)
  | lineBreak {label : Option String} {ms : List Markup} (plain : IsPlainLabel label)
      (rest : Tidy ms) : Tidy (.lineBreak label :: ms)
  | element {tag : KeptTag} {label : Option String} {inner ms : List Markup}
      (plain : IsPlainLabel label) (line : tag = .pre → (renderAll inner).head? ≠ some '\n')
      (content : Tidy inner) (rest : Tidy ms) : Tidy (.element tag label inner :: ms)

/-- A text in front goes into the text that comes first, if there is one. -/
theorem Tidy.exists_before {ts : List Markup} (h : Tidy ts) {chars : List Char}
    (plain : ∀ c ∈ chars, IsPlain c) :
    ∃ us, Tidy us ∧ renderAll us = escapeText chars ++ renderAll ts := by
  by_cases held : chars = []
  · exact ⟨ts, h, by simp [held, escapeText]⟩
  by_cases first : ∃ more, ts.head? = some (.text more)
  · obtain ⟨more, first⟩ := first
    cases h with
    | @text more ts _ plain' apart rest =>
      have joined : ∀ c ∈ chars ++ more, IsPlain c := fun c hc =>
        (List.mem_append.1 hc).elim (plain c) (plain' c)
      refine ⟨_, .text (by simp [held]) joined apart rest, ?_⟩
      simp [render, escapeText]
    | _ => simp at first
  · refine ⟨_, .text held plain (by simpa using first) h, ?_⟩
    rw [renderAll_cons, render]

/-- Texts may be joined without a change in what is written. -/
theorem Legible.exists_tidy {ms : List Markup} (h : Legible ms) :
    ∃ ts, Tidy ts ∧ renderAll ts = renderAll ms := by
  induction h with
  | nil => exact ⟨[], .nil, rfl⟩
  | text plain rest ih =>
    obtain ⟨ts, tidy, same⟩ := ih
    obtain ⟨us, tidy', same'⟩ := tidy.exists_before plain
    exact ⟨us, tidy', by rw [same', same, renderAll_cons, render]⟩
  | lineBreak plain rest ih =>
    obtain ⟨ts, tidy, same⟩ := ih
    exact ⟨_, .lineBreak plain tidy, by rw [renderAll_cons, renderAll_cons, same]⟩
  | element plain line content rest ihContent ihRest =>
    obtain ⟨inner, tidy, same⟩ := ihContent
    obtain ⟨ts, tidy', same'⟩ := ihRest
    refine ⟨_, .element plain (same ▸ line) tidy tidy', ?_⟩
    rw [renderAll_cons, renderAll_cons, same', render, render, same]

theorem isPlain_openingTag {name : String} (plain : ∀ c ∈ name.toList, IsPlain c)
    {label : Option String} (h : IsPlainLabel label) : ∀ c ∈ openingTag name label, IsPlain c := by
  rw [Scan.openingTag_eq]
  refine List.forall_mem_cons.2 ⟨by decide, List.forall_mem_append.2 ⟨plain, ?_⟩⟩
  cases label with
  | none => exact isPlain_of_all (by decide)
  | some l =>
    refine List.forall_mem_append.2 ⟨isPlain_of_all (by decide), ?_⟩
    exact List.forall_mem_append.2 ⟨isPlain_escapeValue (h l rfl), isPlain_of_all (by decide)⟩

theorem Tidy.isPlain {ts : List Markup} (h : Tidy ts) : ∀ c ∈ renderAll ts, IsPlain c := by
  induction h with
  | nil => simp
  | text held plain apart rest ih =>
    rw [renderAll_cons, render]
    exact List.forall_mem_append.2 ⟨isPlain_escapeText plain, ih⟩
  | lineBreak plain rest ih =>
    rw [renderAll_cons, render]
    have name : ∀ c ∈ "br".toList, IsPlain c := isPlain_of_all (by decide)
    exact List.forall_mem_append.2 ⟨isPlain_openingTag name plain, ih⟩
  | @element tag label inner ms plain line content rest ihContent ihRest =>
    have name : ∀ c ∈ tag.name.toList, IsPlain c :=
      isPlain_of_all (by cases tag <;> decide)
    have closing : ∀ c ∈ closingTag tag.name, IsPlain c :=
      isPlain_of_all (by cases tag <;> decide)
    rw [renderAll_cons, render]
    refine List.forall_mem_append.2 ⟨List.forall_mem_append.2 ⟨?_, closing⟩, ihRest⟩
    exact List.forall_mem_append.2 ⟨isPlain_openingTag name plain, ihContent⟩

theorem isTextEnd_openingTag (name : String) (label : Option String) (rest : List Char) :
    Scan.IsTextEnd (openingTag name label ++ rest) :=
  .inr ⟨_, congrArg (· ++ rest) (Scan.openingTag_eq name label)⟩

/-- Markup that begins with no text ends a text in front of it. -/
theorem Tidy.isTextEnd {ts : List Markup} (h : Tidy ts)
    (apart : ∀ more, ts.head? ≠ some (.text more)) {rest : List Char} (stop : Scan.IsTextEnd rest) :
    Scan.IsTextEnd (renderAll ts ++ rest) := by
  cases h with
  | nil => exact stop
  | @text chars => exact absurd rfl (apart chars)
  | lineBreak =>
    rw [renderAll_cons, render, List.append_assoc]
    exact isTextEnd_openingTag _ _ _
  | element =>
    simp only [renderAll_cons, render, List.append_assoc]
    exact isTextEnd_openingTag _ _ _

end Markup

/-! ## Trees of clean markup -/

theorem Element.label_labelling (kind : Kind) (label : Option String) :
    Element.label ⟨kind, Scan.labelling label⟩ = label := by
  cases label <;> simp [Element.label, Scan.labelling]

theorem Element.keep_kept (tag : KeptTag) (label : Option String) (content : List Markup) :
    Element.keep ⟨htmlKind tag.name, Scan.labelling label⟩ content
      = [.element tag label content] := by
  have stays : (htmlKind tag.name).vanishes = false := by cases tag <;> decide
  have kept : KeptTag.of? (htmlKind tag.name).name = some tag := by cases tag <;> decide
  simp only [keep, stays, kept, label_labelling, Bool.false_eq_true, if_false]

theorem Element.keep_lineBreak (label : Option String) (content : List Markup) :
    Element.keep ⟨htmlKind "br", Scan.labelling label⟩ content = [.lineBreak label] := by
  have stays : (htmlKind "br").vanishes = false := by decide
  have other : KeptTag.of? "br" = none := by decide
  have named : (htmlKind "br").name = "br" := rfl
  simp only [keep, stays, named, other, label_labelling, Bool.false_eq_true, if_false, if_true]

namespace Builder

open Dom (Grows)

/-- A builder that reads clean markup hangs it under the innermost open element, which is the same
afterwards. -/
theorem run_tidy {ts : List Markup} (h : Markup.Tidy ts) {b : Builder} {e : OpenElement}
    {outer : List OpenElement} (c : Calm b e outer)
    (line : b.skipFeed = true → (renderAll ts).head? ≠ some '\n') {rest : List Char}
    (stop : Scan.IsTextEnd rest) :
    ∃ g, b.run (renderAll ts ++ rest) = g.run rest ∧ Calm g e outer ∧
      b.dom.Grows e.id g.dom ts := by
  -- What an element holds is read by the builder in which it is the innermost one.
  induction h generalizing b e outer rest with
  | nil => exact ⟨b, rfl, c, .refl _ _⟩
  | @text chars ms held plain apart tidy ih =>
    have below := c.below e c.mem_opened
    have line' : b.skipFeed = true → chars.head? ≠ some '\n' := by
      intro skip feed
      obtain ⟨more, rfl⟩ := List.head?_eq_some_iff.1 feed
      exact line skip (by rw [Markup.renderAll_cons, Markup.render]; rfl)
    have fed := c.feed_text held plain line'
    obtain ⟨g, run, calm, grows⟩ := ih (c.hang (.text chars)) (by simp) stop
    have first := Scan.next?_escapeText held (tidy.isTextEnd apart stop) false
    refine ⟨g, ?_, calm, (Grows.text below chars).trans below grows⟩
    rw [Markup.renderAll_cons, Markup.render, List.append_assoc, c.run_of_next? first, fed, run]
  | @lineBreak label ms plain _ ih =>
    have below := c.below e c.mem_opened
    have fed := c.feed_lineBreak (Scan.labelling label)
    obtain ⟨g, run, calm, grows⟩ := ih (c.hang _) (by simp) stop
    have shown := Grows.element below (e := ⟨htmlKind "br", Scan.labelling label⟩) (.refl _ _)
    rw [Element.keep_lineBreak] at shown
    have first := Scan.next?_openingTag Scan.isTagName_lineBreak plain false (renderAll ms ++ rest)
    refine ⟨g, ?_, calm, shown.trans below grows⟩
    rw [Markup.renderAll_cons, Markup.render, List.append_assoc, c.run_of_next? first, fed, run]
  | @element tag label inner ms plain line' _ _ ihContent ihRest =>
    have below := c.below e c.mem_opened
    have name := Scan.isTagName_kept tag
    obtain ⟨g₁, fed₁, calm₁, dom₁, feed₁⟩ := c.feed_opening tag (Scan.labelling label)
    rw [c.opened] at calm₁
    have closes : Scan.IsTextEnd (Markup.closingTag tag.name ++ (renderAll ms ++ rest)) :=
      .inr ⟨_, rfl⟩
    obtain ⟨g₂, run₂, calm₂, grows₂⟩ := ihContent calm₁ (fun h => line' (feed₁ h)) closes
    obtain ⟨g₃, fed₃, calm₃, dom₃, feed₃⟩ := calm₂.feed_closing rfl
    obtain ⟨g, run, calm, grows⟩ := ihRest calm₃ (by simp [feed₃]) stop
    rw [dom₁] at grows₂
    have shown := Grows.element below grows₂
    rw [Element.keep_kept, ← dom₃] at shown
    refine ⟨g, ?_, calm, shown.trans below grows⟩
    simp only [Markup.renderAll_cons, Markup.render, List.append_assoc]
    rw [c.run_of_next? (Scan.next?_openingTag name plain false _), fed₁, run₂,
      calm₂.run_of_next? (Scan.next?_closingTag name false _), fed₃, run]

theorem calm_start : Calm start ⟨0, htmlKind "html"⟩ [] where
  opened := rfl
  mode := rfl
  content := rfl
  fostering := rfl
  kinds o ho := .inl (by rw [List.mem_singleton.1 ho])
  below o ho := by
    rw [List.mem_singleton.1 ho]
    exact Nat.zero_lt_one
  distinct := List.pairwise_singleton _ _
  marked := .none _

end Builder

/-! ## Cleaning -/

theorem lineFeeds_of_isPlain {cs : List Char} (plain : ∀ c ∈ cs, IsPlain c) :
    lineFeeds cs = cs := by
  induction cs with
  | nil => rfl
  | cons c cs ih =>
    have hc := (plain c List.mem_cons_self).2.1
    rw [lineFeeds, ih fun d hd => plain d (List.mem_cons_of_mem c hd)]
    · exact fun r he => absurd he hc
    · exact fun he => absurd he hc

theorem prepare_of_isPlain {cs : List Char} (plain : ∀ c ∈ cs, IsPlain c) : prepare cs = cs := by
  unfold prepare
  split
  · exact absurd rfl (plain _ List.mem_cons_self).2.2
  · exact lineFeeds_of_isPlain plain

/-- Tidy markup is just what the tree of its text shows. -/
theorem Dom.markup_ofText {ts : List Markup} (h : Markup.Tidy ts) :
    (Dom.ofText (renderAll ts)).markup = ts := by
  obtain ⟨g, run, calm, grows⟩ := Builder.run_tidy h Builder.calm_start nofun (.inl rfl)
  have last : g.run [] = g := by
    rw [Builder.run]
    simp [Scan.next?, Builder.finish, calm.mode]
  rw [Dom.ofText, prepare_of_isPlain h.isPlain, ← List.append_nil (renderAll ts), run, last]
  exact Dom.markup_of_grows rfl grows

/-- Clean markup is kept: to clean what is written for legible markup changes nothing. -/
theorem clean_legible {ms : List Markup} (h : Markup.Legible ms) :
    clean (String.ofList (renderAll ms)) = String.ofList (renderAll ms) := by
  obtain ⟨ts, tidy, same⟩ := h.exists_tidy
  rw [← same, clean, String.toList_ofList, Dom.markup_ofText tidy]

/-- A listing as a highlighter writes it. -/
def listing : List Markup :=
  [.element .pre (some "a \"b\"") [.element .code none
    [.text "if x < y".toList, .lineBreak none, .text "\u00a0&amp;\n".toList]]]

/-- A reference that stands in the text is kept as text. -/
theorem clean_listing :
    Markup.Legible listing ∧
    clean "<pre class=\"a &quot;b&quot;\"><code>if x &lt; y<br>&nbsp;&amp;amp;\n</code></pre>"
      = "<pre class=\"a &quot;b&quot;\"><code>if x &lt; y<br>&nbsp;&amp;amp;\n</code></pre>" := by
  have code : Markup.Legible [.text "if x < y".toList, .lineBreak none,
      .text "\u00a0&amp;\n".toList] :=
    .text (isPlain_of_all (by decide)) (.lineBreak nofun (.text (isPlain_of_all (by decide)) .nil))
  have label : IsPlainLabel (some "a \"b\"") := by
    rintro l ⟨⟩
    exact isPlain_of_all (by decide)
  have legible : Markup.Legible listing :=
    .element label (fun _ => by decide) (.element nofun nofun code .nil) .nil
  have written : String.ofList (renderAll listing)
      = "<pre class=\"a &quot;b&quot;\"><code>if x &lt; y<br>&nbsp;&amp;amp;\n</code></pre>" := by
    decide
  have kept := clean_legible legible
  rw [written] at kept
  exact ⟨legible, kept⟩

end SchemaBoard.Html
