import Mathlib.Logic.Function.Basic
import SchemaBoard.Proofs.Text.Replacement
import SchemaBoard.Text.Escape

/-!
# Escaped text can be read back

The four references are told apart by what follows the ampersand, and no other ampersand is left in
escaped text, nor any of the other three characters. A text like that is escaped already: what it
reads as is written as it stands. Main statements: `unescapeChars_escapeChars`,
`escapeChars_unescapeChars`, and `escape_faithful`, which holds them together with the four
replacements that write the references one after another.
-/
namespace SchemaBoard.Text

/-- The four characters that have a meaning in markup, each with its reference. -/
def references : List (Char × String) :=
  [('&', "&amp;"), ('<', "&lt;"), ('>', "&gt;"), ('\x22', "&quot;")]

theorem escapeChar_eq_written : escapeChar = written references := by
  funext c
  simp only [references, written_cons, written_nil, escapeChar]

/-- The ampersand has the first turn, and no reference holds one of the other three. -/
theorem isOrdered_references : IsOrdered references := by
  unfold IsOrdered
  decide

theorem toList_escape (s : String) : (escape s).toList = s.toList.flatMap (written references) := by
  rw [escape, String.toList_ofList, escapeChars, escapeChar_eq_written]

theorem inTurn_references (s : String) : inTurn references s = escape s :=
  String.toList_injective (by rw [toList_inTurn isOrdered_references, toList_escape])

/-- Put the four characters back in the place of their references. -/
def unescapeChars : List Char → List Char
  | [] => []
  | '&' :: 'a' :: 'm' :: 'p' :: ';' :: cs => '&' :: unescapeChars cs
  | '&' :: 'l' :: 't' :: ';' :: cs => '<' :: unescapeChars cs
  | '&' :: 'g' :: 't' :: ';' :: cs => '>' :: unescapeChars cs
  | '&' :: 'q' :: 'u' :: 'o' :: 't' :: ';' :: cs => '\x22' :: unescapeChars cs
  | c :: cs => c :: unescapeChars cs

def unescape (s : String) : String := String.ofList (unescapeChars s.toList)

theorem unescapeChars_cons {c : Char} (h : c ≠ '&') (cs : List Char) :
    unescapeChars (c :: cs) = c :: unescapeChars cs := by
  rw [unescapeChars]
  all_goals simp [h]

theorem mem_references {r : Char × String} (hr : r ∈ references) :
    r = ('&', "&amp;") ∨ r = ('<', "&lt;") ∨ r = ('>', "&gt;") ∨ r = ('\x22', "&quot;") := by
  simpa [references] using hr

theorem exists_name_of_mem {r : Char × String} (hr : r ∈ references) :
    ∃ name, r.2.toList = '&' :: name ∧ '&' ∉ name := by
  rcases mem_references hr with rfl | rfl | rfl | rfl <;> exact ⟨_, rfl, by decide⟩

theorem escapeChar_of_mem {r : Char × String} (hr : r ∈ references) :
    escapeChar r.1 = r.2.toList := by
  rcases mem_references hr with rfl | rfl | rfl | rfl <;> rfl

theorem unescapeChars_of_mem {r : Char × String} (hr : r ∈ references) (cs : List Char) :
    unescapeChars (r.2.toList ++ cs) = r.1 :: unescapeChars cs := by
  rcases mem_references hr with rfl | rfl | rfl | rfl <;> rfl

theorem unescapeChars_escapeChar (c : Char) (cs : List Char) :
    unescapeChars (escapeChar c ++ cs) = c :: unescapeChars cs := by
  rw [escapeChar_eq_written]
  rcases written_cases references c with ⟨r, hr, rfl, text⟩ | ⟨plain, self⟩
  · rw [text, unescapeChars_of_mem hr]
  · have amp : c ≠ '&' := Ne.symm (plain ('&', "&amp;") (by decide))
    rw [self, List.singleton_append, unescapeChars_cons amp]

theorem unescapeChars_escapeChars (cs : List Char) : unescapeChars (escapeChars cs) = cs := by
  induction cs with
  | nil => rfl
  | cons c cs ih => rw [escapeChars_cons, unescapeChars_escapeChar, ih]

theorem escapeChars_injective : Function.Injective escapeChars :=
  Function.LeftInverse.injective unescapeChars_escapeChars

theorem unescape_escape (s : String) : unescape (escape s) = s := by
  simp [unescape, escape, unescapeChars_escapeChars]

/-- Of the four characters only ampersands are left, and only where a reference begins. -/
structure IsEscaped (cs : List Char) : Prop where
  lt : '<' ∉ cs
  gt : '>' ∉ cs
  quot : '\x22' ∉ cs
  amp : ∀ behind, '&' :: behind <:+ cs → ∃ r ∈ references, r.2.toList <+: '&' :: behind

namespace IsEscaped

theorem of_suffix {u v : List Char} (hv : IsEscaped v) (h : u <:+ v) : IsEscaped u where
  lt held := hv.lt (h.subset held)
  gt held := hv.gt (h.subset held)
  quot held := hv.quot (h.subset held)
  amp _ stands := hv.amp _ (stands.trans h)

theorem append {u v : List Char} (hu : IsEscaped u) (hv : IsEscaped v) : IsEscaped (u ++ v) where
  lt := by simp [hu.lt, hv.lt]
  gt := by simp [hu.gt, hv.gt]
  quot := by simp [hu.quot, hv.quot]
  amp := by
    rintro behind ⟨before, e⟩
    rcases List.append_eq_append_iff.1 e with ⟨rest, rfl, left⟩ | ⟨rest, rfl, rfl⟩
    · cases rest with
      | nil => exact hv.amp behind ⟨[], left⟩
      | cons c rest =>
        -- The reference lies in the first text as a whole, whatever the second one begins with.
        obtain ⟨rfl, rfl⟩ := List.cons.inj left
        obtain ⟨r, hr, begins⟩ := hu.amp rest ⟨before, rfl⟩
        exact ⟨r, hr, begins.trans ⟨v, rfl⟩⟩
    · exact hv.amp behind ⟨rest, rfl⟩

theorem of_reference {r : Char × String} (hr : r ∈ references) : IsEscaped r.2.toList where
  lt := by revert r; decide
  gt := by revert r; decide
  quot := by revert r; decide
  amp := by
    obtain ⟨name, text, free⟩ := exists_name_of_mem hr
    intro behind stands
    rw [text] at stands
    rcases List.suffix_cons_iff.1 stands with whole | inside
    · exact ⟨r, hr, by simp only [whole, text, List.prefix_rfl]⟩
    · exact absurd (inside.subset List.mem_cons_self) free

theorem of_plain {c : Char} (plain : ∀ r ∈ references, r.1 ≠ c) : IsEscaped [c] := by
  obtain ⟨amp, lt, gt, quot⟩ : '&' ≠ c ∧ '<' ≠ c ∧ '>' ≠ c ∧ '\x22' ≠ c := by
    simpa [references] using plain
  refine ⟨by simpa using lt, by simpa using gt, by simpa using quot, fun behind stands => ?_⟩
  exact absurd (List.mem_singleton.1 (stands.subset List.mem_cons_self)) amp

theorem plain_of_ne {c : Char} {cs : List Char} (h : IsEscaped (c :: cs)) (amp : c ≠ '&') :
    ∀ r ∈ references, r.1 ≠ c := by
  have lt : '<' ≠ c := fun same => h.lt (same ▸ List.mem_cons_self)
  have gt : '>' ≠ c := fun same => h.gt (same ▸ List.mem_cons_self)
  have quot : '\x22' ≠ c := fun same => h.quot (same ▸ List.mem_cons_self)
  simp [references, amp.symm, lt, gt, quot]

end IsEscaped

theorem isEscaped_escapeChar (c : Char) : IsEscaped (escapeChar c) := by
  rw [escapeChar_eq_written]
  rcases written_cases references c with ⟨r, hr, -, text⟩ | ⟨plain, self⟩
  · exact text ▸ .of_reference hr
  · exact self ▸ .of_plain plain

theorem isEscaped_escapeChars (cs : List Char) : IsEscaped (escapeChars cs) := by
  induction cs with
  | nil => exact ⟨by simp, by simp, by simp, by simp⟩
  | cons c cs ih => exact (isEscaped_escapeChar c).append ih

theorem isEscaped_escape (s : String) : IsEscaped (escape s).toList := by
  rw [escape, String.toList_ofList]
  exact isEscaped_escapeChars s.toList

/-- What has the form of escaped text is escaped text. -/
theorem escapeChars_unescapeChars {cs : List Char} (h : IsEscaped cs) :
    escapeChars (unescapeChars cs) = cs := by
  -- By the length of the text, since several characters are read at once.
  induction size : cs.length using Nat.strongRecOn generalizing cs with
  | ind n ih =>
    cases cs with
    | nil => rfl
    | cons c cs =>
      by_cases amp : c = '&'
      · subst amp
        obtain ⟨r, hr, rest, e⟩ := h.amp cs List.suffix_rfl
        have shorter : rest.length < n := by
          obtain ⟨name, text, -⟩ := exists_name_of_mem hr
          rw [← size, ← e, text, List.length_append, List.length_cons]
          omega
        have back := ih rest.length shorter (h.of_suffix ⟨r.2.toList, e⟩) rfl
        rw [← e, unescapeChars_of_mem hr, escapeChars_cons, escapeChar_of_mem hr, back]
      · have shorter : cs.length < n := by
          rw [← size, List.length_cons]
          omega
        have back := ih cs.length shorter (h.of_suffix (List.suffix_cons c cs)) rfl
        have self : escapeChar c = [c] := by
          rw [escapeChar_eq_written, written_eq_self (h.plain_of_ne amp)]
        rw [unescapeChars_cons amp, escapeChars_cons, self, back, List.singleton_append]

theorem escape_unescape_iff (s : String) : escape (unescape s) = s ↔ IsEscaped s.toList := by
  constructor
  · intro h
    exact h ▸ isEscaped_escape (unescape s)
  · intro h
    simp [escape, unescape, escapeChars_unescapeChars h]

/-- Escaping is a faithful way of writing. Four replacements, the ampersand first, come to one pass
over the text. What is written holds no more of the four characters than the ampersands of its
references, and it reads back as the text that was escaped; every text that holds no more of them is
written so. Texts stay apart, and the parts of a text are escaped each for itself. -/
theorem escape_faithful :
    (∀ s : String,
      (((s.replace '&' "&amp;").replace '<' "&lt;").replace '>' "&gt;").replace '\x22' "&quot;" =
          escape s ∧
        (escape s).toList = s.toList.flatMap (written references) ∧
        IsEscaped (escape s).toList ∧
        unescape (escape s) = s ∧
        (escape (unescape s) = s ↔ IsEscaped s.toList)) ∧
      Function.Injective escape ∧
      ∀ s t : String, escape (s ++ t) = escape s ++ escape t := by
  refine ⟨fun s => ?_, Function.LeftInverse.injective unescape_escape, fun s t => ?_⟩
  · exact ⟨inTurn_references s, toList_escape s, isEscaped_escape s, unescape_escape s,
      escape_unescape_iff s⟩
  · simp [escape, escapeChars_append]

end SchemaBoard.Text
