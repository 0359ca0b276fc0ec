import SchemaBoard.Proofs.Board.Page
import SchemaBoard.Proofs.Desk.Highlights
import SchemaBoard.Proofs.Html.Nesting

/-!
# The pages of a desk

Whatever the service sends, what hangs in a gallery has been cleaned, and everything else on a page
is escaped. So a page is a sequence of texts and of tags of a few names, on any course of a desk.
Main statement: `page_is_harmless`.
-/
namespace SchemaBoard

open Html (Harmless Part)

variable {σ X : Type}

namespace Display

/-- Everything that hangs has been cleaned. -/
def HangsClean (x : Display) : Prop :=
  ∀ id html, x.gallery.get? id = some html → ∃ code, html = Html.clean code

theorem hangsClean_empty : HangsClean {} := by
  intro id html h
  cases h

theorem hangsClean_hear (x : Display) (n : Notice Analysis) (h : x.HangsClean) :
    (x.hear n).HangsClean := by
  unfold Display.hear
  split
  · intro id html hh
    cases hh
  · exact h

/-- What hangs after an act hung before, or has just been cleaned. -/
theorem get?_act (x : Display) (a : Act) {id html : String}
    (h : (x.act a).gallery.get? id = some html) :
    x.gallery.get? id = some html ∨ ∃ code, html = Html.clean code := by
  cases a with
  | press k c =>
    cases hm : x.move k c with
    | error e => exact .inl (by simpa [act, hm] using h)
    | ok e => exact .inl (by simpa [act, hm, move_ok hm, press] using h)
  | beginCode k =>
    cases hb : x.beginCode k with
    | error e => exact .inl (by simpa [act, hb] using h)
    | ok p => exact .inl (by simpa [act, hb, beginCode_ok hb, press] using h)
  | beginRefresh k =>
    cases hb : x.beginRefresh k with
    | error e => exact .inl (by simpa [act, hb] using h)
    | ok p =>
      have hr : (x.gallery.remove k).get? id = some html := by
        simpa [act, hb, beginRefresh_ok hb] using h
      by_cases hk : id = k
      · subst hk
        rw [Gallery.get?_remove_self] at hr
        cases hr
      · rw [Gallery.get?_remove_of_ne _ hk] at hr
        exact .inl hr
  | finishCode t reply =>
    simp only [act, finishCode, Gallery.settle] at h
    split at h
    · cases reply with
      | error e => exact .inl h
      | ok code =>
        by_cases hk : id = t.id
        · subst hk
          rw [Gallery.get?_hang_self] at h
          exact .inr ⟨code, (Option.some.inj h).symm⟩
        · rw [Gallery.get?_hang_of_ne _ _ hk] at h
          exact .inl h
    · exact .inl h

theorem hangsClean_act (x : Display) (a : Act) (h : x.HangsClean) : (x.act a).HangsClean := by
  intro id html hh
  rcases get?_act x a hh with hold | hnew
  · exact h id html hold
  · exact hnew

theorem harmless_clean (code : String) : Harmless (Html.clean code).toList :=
  (Html.isReading_clean code).harmless

theorem HangsClean.card {x : Display} (h : x.HangsClean) (m : Model) : (x.card m).body.IsClean := by
  unfold Display.card Model.card Model.body
  cases x.modeOf m.id with
  | collapsed => trivial
  | table => trivial
  | code =>
    cases hg : x.gallery.get? m.id with
    | none => trivial
    | some html =>
      obtain ⟨code, rfl⟩ := h m.id html hg
      exact harmless_clean code

/-- The page of a display is harmless if all that hangs is clean. -/
theorem HangsClean.html {x : Display} (h : x.HangsClean) : Harmless x.html.toList := by
  unfold Display.html Display.cards
  cases x.analysis with
  | none => exact .nil
  | some a =>
    refine harmless_boardHtml fun c hc => ?_
    obtain ⟨m, -, rfl⟩ := List.mem_map.1 hc
    exact h.card m

end Display

namespace Desk

variable [Listener X Analysis]

/-- On any course of a desk, the page of a display is a sequence of texts without angle brackets and
of tags of allowed names, with allowed attributes whose quoted values hold no quote; and every
less-than sign of the page starts one of these tags. -/
theorem page_is_harmless {w : σ} {d : Desk σ X} {as : List (Act X)} (c : Course (start w) as d)
    {name : String} {x : Display} (hx : d.display? name = some x) :
    ∃ parts : List Part, (∀ p ∈ parts, p.IsAllowed) ∧ x.html.toList = parts.flatMap Part.write ∧
      ∀ before after, x.html.toList = before ++ '<' :: after →
        ∃ p ∈ parts, p.isTag = true ∧ p.write <+: '<' :: after := by
  have clean : x.HangsClean :=
    displays_course (P := Display.HangsClean) Display.hangsClean_empty Display.hangsClean_hear
      Display.hangsClean_act c hx
  obtain ⟨parts, allowed, written⟩ := clean.html
  refine ⟨parts, allowed, written, fun before after h => ?_⟩
  exact Part.exists_tag_of_lt allowed (written.symm.trans h)

/-! ## A service that means harm -/

/-- An analysis whose texts are all written as if they were markup. -/
def hostile : Analysis :=
  ⟨"<style>", [⟨"\"><script>", "<img onerror=\"x\">", ⟨0, 1⟩,
    [⟨"<link>", "</td>", true, ["<b>"], ["\" onclick=\""], []⟩], "<script>"⟩]⟩

def hostileTicket : Ticket := ⟨"\"><script>", ⟨⟨0, 1⟩, "<style>"⟩, 1⟩

def hostileLanding : Desk Unit Empty := (start ()).wrote analysisTag (.success hostile)

def hostileReset : Display := { analysis := some hostile, gallery := ⟨[], 1⟩ }

def hostileActs : List Display.Act :=
  [.beginCode "\"><script>", .finishCode hostileTicket (.ok "<script>x</script><b onclick=x>y")]

/-- The code of the only model is on show, as far as it is clean. -/
def hostileShown : Desk Unit Empty :=
  setDisplay { hostileLanding with hub := Hub.advance 10 hostileLanding.hub } mainName
    (hostileReset.acts hostileActs)

theorem course_hostileShown : Course (start ()) (([.write analysisTag (.success hostile)] ++
    (Hub.beats 10 hostileLanding.hub).map .beat) ++ hostileActs.map (.control mainName))
    hostileShown :=
  ((Course.of_move (.write (start ()) analysisTag (.success hostile))).trans
    (course_advance hostileLanding 10)).trans
      (course_controls _ (show _ = some hostileReset from display?_main _) hostileActs)

/-- The page of a hostile service is harmless all the same. -/
theorem hostile_page_is_harmless : ∃ x, hostileShown.display? mainName = some x ∧
    x.gallery.get? "\"><script>" = some (Html.clean "<script>x</script><b onclick=x>y") ∧
    ∃ parts : List Part, (∀ p ∈ parts, p.IsAllowed) ∧ x.html.toList = parts.flatMap Part.write := by
  have hx : hostileShown.display? mainName = some (hostileReset.acts hostileActs) :=
    display?_setDisplay _ (show _ = some hostileReset from display?_main _)
  obtain ⟨parts, allowed, written, -⟩ := page_is_harmless course_hostileShown hx
  exact ⟨_, hx, rfl, parts, allowed, written⟩

end Desk
end SchemaBoard
