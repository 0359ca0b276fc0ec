import Mathlib.Data.List.DropRight
import SchemaBoard.Remote.Origin

/-!
# Base addresses

White space is left out at both ends of an address, and then strokes at its end. What is kept has no
white space in front and no stroke behind. But white space that stood before those strokes is not
looked at again: it stays, and an address that is read once more loses it. Main statement:
`kept_when_read_again_iff`.
-/
namespace SchemaBoard

namespace Text

variable {p : Char → Bool} {cs ds : List Char}

theorem getLast?_dropEndWhile (p : Char → Bool) (cs : List Char) :
    (dropEndWhile p cs).getLast?.any p = false := by
  have first := List.head?_dropWhile_not p cs.reverse
  rw [dropEndWhile, List.getLast?_reverse]
  cases h : (cs.reverse.dropWhile p).head? with
  | none => rfl
  | some c => simpa [h] using first

theorem dropEndWhile_eq_self_iff : dropEndWhile p cs = cs ↔ cs.getLast?.any p = false := by
  constructor
  · intro h
    rw [← h]
    exact getLast?_dropEndWhile p cs
  · intro h
    refine List.rdropWhile_eq_self_iff.2 fun hl => ?_
    simpa [List.getLast?_eq_some_getLast hl] using h

theorem dropEndWhile_append (h : ∀ d ∈ ds, p d = true) :
    dropEndWhile p (cs ++ ds) = dropEndWhile p cs := by
  rw [dropEndWhile, List.reverse_append,
    List.dropWhile_append_of_pos fun d hd => h d (List.mem_reverse.1 hd), dropEndWhile]

/-- What is left out at the end is of the kind, and nothing else is left out. -/
theorem exists_dropEndWhile (p : Char → Bool) (cs : List Char) :
    ∃ ds, cs = dropEndWhile p cs ++ ds ∧ ∀ d ∈ ds, p d = true :=
  ⟨cs.rtakeWhile p, List.rdropWhile_append_rtakeWhile.symm,
    fun _ => List.mem_rtakeWhile_imp⟩

end Text

namespace Remote

open SchemaBoard.Text

/-- An address in four parts: white space, a base, strokes, and white space again. -/
structure IsCut (url front base strokes behind : List Char) : Prop where
  whole : url = front ++ base ++ strokes ++ behind
  front : ∀ c ∈ front, isBlank c = true
  strokes : ∀ c ∈ strokes, c = '/'
  behind : ∀ c ∈ behind, isBlank c = true

/-- White space stands right before the strokes with which an address ends. -/
def BlankBeforeStrokes (url : List Char) : Prop :=
  ∃ front base strokes behind, IsCut url front base strokes behind ∧
    base.getLast?.any isBlank = true ∧ strokes ≠ []

theorem head_of_hasScheme {cs : List Char} (h : hasScheme cs = true) : cs.head? = some 'h' := by
  rw [hasScheme, Bool.or_eq_true, List.isPrefixOf_iff_prefix, List.isPrefixOf_iff_prefix] at h
  rcases h with ⟨rest, rfl⟩ | ⟨rest, rfl⟩ <;> simp

theorem ofUrl_ok_iff {url : String} {o : Origin} :
    Origin.ofUrl url = .ok o ↔
      hasScheme (normalize url.toList) = true ∧ o.base.toList = normalize url.toList ∧
        o.timeout = defaultTimeout := by
  obtain ⟨base, timeout⟩ := o
  rw [Origin.ofUrl]
  split
  · rename_i scheme
    simp [scheme, ← String.toList_inj, eq_comm]
  · simp [*]

theorem trim_of_head {cs : List Char} (h : cs.head?.any isBlank = false) :
    trim cs = dropEndWhile isBlank cs := by
  cases cs with
  | nil => rfl
  | cons c cs =>
    have first : isBlank c = false := by simpa using h
    rw [trim, List.dropWhile_cons_of_neg (by simp [first])]

/-- An address that is trimmed already, and that ends with no stroke, is kept as it is just when no
white space was left at its end. -/
theorem normalize_eq_self_iff {cs : List Char} (head : cs.head?.any isBlank = false)
    (last : cs.getLast? ≠ some '/') :
    normalize cs = cs ↔ cs.getLast?.any isBlank = false := by
  rw [normalize, trim_of_head head]
  constructor
  · intro h
    have shorter : dropEndWhile isBlank cs <+: cs := List.rdropWhile_prefix _ _
    have longer : cs <+: dropEndWhile isBlank cs := by
      conv_lhs => rw [← h]
      exact List.rdropWhile_prefix _ _
    exact dropEndWhile_eq_self_iff.1 (shorter.eq_of_length_le longer.length_le)
  · intro h
    rw [dropEndWhile_eq_self_iff.2 h, dropEndWhile_eq_self_iff]
    cases e : cs.getLast? with
    | none => rfl
    | some c => simpa [e] using last

/-- What is kept is all of an address but white space at both ends and the strokes at its end. White
space at the end of what is kept stood before strokes. -/
theorem exists_isCut (url : List Char) :
    ∃ front strokes behind, IsCut url front (normalize url) strokes behind ∧
      ((normalize url).getLast?.any isBlank = true → strokes ≠ []) := by
  obtain ⟨behind, hb, blank⟩ := exists_dropEndWhile isBlank (url.dropWhile isBlank)
  obtain ⟨strokes, hs, stroke⟩ := exists_dropEndWhile (· = '/') (trim url)
  have whole : url = url.takeWhile isBlank ++ normalize url ++ strokes ++ behind :=
    calc url = url.takeWhile isBlank ++ url.dropWhile isBlank := List.takeWhile_append_dropWhile.symm
      _ = url.takeWhile isBlank ++ (trim url ++ behind) := by rw [trim, ← hb]
      _ = url.takeWhile isBlank ++ normalize url ++ strokes ++ behind := by
        rw [normalize, List.append_assoc, List.append_assoc, ← List.append_assoc _ strokes, ← hs]
  refine ⟨url.takeWhile isBlank, strokes, behind,
    ⟨whole, fun c hc => List.mem_takeWhile_imp hc, fun c hc => by simpa using stroke c hc, blank⟩, ?_⟩
  rintro last rfl
  have trimmed : trim url = normalize url := by simpa [normalize] using hs
  have free : (trim url).getLast?.any isBlank = false := getLast?_dropEndWhile _ _
  rw [trimmed, last] at free
  cases free

/-- Strokes that end an address keep apart the white space on their two sides. -/
theorem normalize_of_isCut {url front base strokes behind : List Char}
    (cut : IsCut url front base strokes behind) (struck : strokes ≠ []) :
    normalize url = dropEndWhile (· = '/') ((front ++ base).dropWhile isBlank) := by
  have slash : isBlank '/' = false := by decide
  have first : strokes.head?.any isBlank = false := by
    cases strokes with
    | nil => rfl
    | cons s rest => simp [cut.strokes s List.mem_cons_self, slash]
  have last : strokes.getLast? = some '/' := by
    rw [List.getLast?_eq_some_getLast struck, cut.strokes _ (List.getLast_mem struck)]
  have dropped : url.dropWhile isBlank = (front ++ base).dropWhile isBlank ++ strokes ++ behind := by
    rw [cut.whole, List.append_assoc, List.dropWhile_append]
    split
    · rename_i none
      obtain ⟨s, rest, rfl⟩ := List.exists_cons_of_ne_nil struck
      rw [List.isEmpty_iff.1 none]
      simpa using first
    · simp
  have trimmed : trim url = (front ++ base).dropWhile isBlank ++ strokes := by
    rw [trim, dropped, dropEndWhile_append cut.behind, dropEndWhile_eq_self_iff,
      List.getLast?_append, last]
    simpa using slash
  rw [normalize, trimmed, dropEndWhile_append fun c hc => decide_eq_true (cut.strokes c hc)]

theorem blankBeforeStrokes_iff {url : List Char} (scheme : hasScheme (normalize url) = true) :
    (normalize url).getLast?.any isBlank = true ↔ BlankBeforeStrokes url := by
  constructor
  · intro last
    obtain ⟨front, strokes, behind, cut, struck⟩ := exists_isCut url
    exact ⟨front, normalize url, strokes, behind, cut, last, struck last⟩
  · rintro ⟨front, base, strokes, behind, cut, last, struck⟩
    have kept := normalize_of_isCut cut struck
    have filled : (front ++ base).dropWhile isBlank ≠ [] := by
      intro none
      rw [kept, none] at scheme
      cases scheme
    obtain ⟨c, hc, blank⟩ := (Option.any_eq_true _ _).1 last
    obtain ⟨dropped, e⟩ := List.dropWhile_suffix (l := front ++ base) isBlank
    have ends : ((front ++ base).dropWhile isBlank).getLast? = some c := by
      rw [← List.getLast?_append_of_ne_nil dropped filled, e, List.getLast?_append, hc]
      rfl
    have free : c ≠ '/' := by
      rintro rfl
      exact absurd blank (by decide)
    rw [kept, dropEndWhile_eq_self_iff.2 (by simpa [ends] using free), ends]
    exact blank

/-- The base of an origin is what an address holds between white space at both ends and strokes at
its end. It has no white space in front and no stroke behind, so the two operations are reached over
just one stroke more. It is kept as it is when it is read once more if and only if it has no white
space behind; and it has some if and only if white space stood right before the strokes. -/
theorem kept_when_read_again_iff {url : String} {o : Origin} (h : Origin.ofUrl url = .ok o) :
    (∃ front strokes behind, IsCut url.toList front o.base.toList strokes behind) ∧
    o.base.toList.head?.any isBlank = false ∧ o.base.toList.getLast? ≠ some '/' ∧
    o.analyseUrl = o.base ++ "/" ++ "api/v1/visualise" ∧
    o.highlightUrl = o.base ++ "/" ++ "api/v1/code_highlight" ∧
    (Origin.ofUrl o.base = .ok o ↔ o.base.toList.getLast?.any isBlank = false) ∧
    (o.base.toList.getLast?.any isBlank = true ↔ BlankBeforeStrokes url.toList) := by
  obtain ⟨scheme, base, time⟩ := ofUrl_ok_iff.1 h
  obtain ⟨front, strokes, behind, cut, -⟩ := exists_isCut url.toList
  have head : (normalize url.toList).head?.any isBlank = false := by
    rw [head_of_hasScheme scheme]
    decide
  have last : (normalize url.toList).getLast? ≠ some '/' := by
    intro e
    have free : (normalize url.toList).getLast?.any (· = '/') = false := getLast?_dropEndWhile _ _
    rw [e] at free
    cases free
  have joined (path : String) : o.base ++ ("/" ++ path) = o.base ++ "/" ++ path :=
    (String.append_assoc ..).symm
  rw [ofUrl_ok_iff, base]
  refine ⟨⟨front, strokes, behind, cut⟩, head, last, joined "api/v1/visualise",
    joined "api/v1/code_highlight", ?_,
    blankBeforeStrokes_iff scheme⟩
  rw [← normalize_eq_self_iff head last]
  constructor
  · rintro ⟨-, same, -⟩
    exact same.symm
  · intro same
    exact ⟨by rw [same]; exact scheme, same.symm, time⟩

/-- White space between strokes is left at the end of a base, and is left out when the base is read
once more. -/
theorem blank_kept_before_stroke :
    Origin.ofUrl "http://a /" = .ok ⟨"http://a ", defaultTimeout⟩ ∧
    Origin.ofUrl "http://a " = .ok ⟨"http://a", defaultTimeout⟩ ∧
    Origin.ofUrl "http://a " ≠ .ok ⟨"http://a ", defaultTimeout⟩ ∧
    BlankBeforeStrokes "http://a /".toList := by
  have first : Origin.ofUrl "http://a /" = .ok ⟨"http://a ", defaultTimeout⟩ := by decide +kernel
  obtain ⟨-, -, -, -, -, again, blank⟩ := kept_when_read_again_iff first
  refine ⟨first, by decide +kernel, ?_, blank.1 (by decide)⟩
  intro same
  exact absurd (again.1 same) (by decide)

end Remote
end SchemaBoard
