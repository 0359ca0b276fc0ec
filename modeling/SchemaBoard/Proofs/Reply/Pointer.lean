import SchemaBoard.Proofs.Reply.Admission
import Std.Data.String.ToNat

/-!
# Reading JSON Pointers

A JSON Pointer is empty, or a sequence of tokens with a slash before each. A token names a member of
an object, with `~0` for a tilde and `~1` for a slash, or it writes the index of an item of a list.
Main statement: `resolve_pointer`, a place inside a value is found by the pointer that is written
for it.
-/
namespace SchemaBoard.Reply

open Json

namespace Pointer

/-- The name that a token stands for. -/
def unescape : List Char → List Char
  | '~' :: '0' :: cs => '~' :: unescape cs
  | '~' :: '1' :: cs => '/' :: unescape cs
  | c :: cs => c :: unescape cs
  | [] => []

/-- The index that a token writes, in decimal digits without a leading zero. -/
def index? (token : List Char) : Option Nat :=
  (String.ofList token).toNat?.filter fun i => toString i = String.ofList token

/-- Follow a token into a value. -/
def follow (v : Value) (token : List Char) : Option Value :=
  match v with
  | .object ms => ms.lookup (String.ofList (unescape token))
  | .array vs => (index? token).bind (vs[·]?)
  | _ => none

/-- The value that a text points to inside another. -/
def resolve (text : String) (v : Value) : Option Value :=
  match text.toList with
  | [] => some v
  | c :: cs => if c = '/' then (cs.splitOn '/').foldlM follow v else none

theorem unescape_cons {c : Char} (h : c ≠ '~') (cs : List Char) :
    unescape (c :: cs) = c :: unescape cs := by
  rw [unescape]
  · rintro _ rfl
    exact absurd rfl h
  · rintro _ rfl
    exact absurd rfl h

theorem unescape_token (name : String) :
    String.ofList (unescape (Segment.member name).token.toList) = name := by
  rw [Segment.token, String.toList_ofList]
  suffices ∀ cs : List Char, unescape (cs.flatMap fun c =>
      if c = '~' then ['~', '0'] else if c = '/' then ['~', '1'] else [c]) = cs by
    rw [this, String.ofList_toList]
  intro cs
  induction cs with
  | nil => rfl
  | cons c cs ih =>
    rw [List.flatMap_cons]
    by_cases tilde : c = '~'
    · simp [tilde, unescape, ih]
    · by_cases slash : c = '/'
      · simp [slash, unescape, ih]
      · rw [if_neg tilde, if_neg slash, List.singleton_append, unescape_cons tilde, ih]

theorem index?_token (i : Nat) : index? (Segment.item i).token.toList = some i := by
  rw [index?, String.ofList_toList, Segment.token, Nat.toString_eq_repr, Nat.toNat?_repr]
  simp

theorem slash_notMem_token (s : Segment) : '/' ∉ s.token.toList := by
  cases s with
  | member name =>
    rw [Segment.token, String.toList_ofList, List.mem_flatMap]
    rintro ⟨c, -, hc⟩
    by_cases tilde : c = '~'
    · simp [tilde] at hc
    · by_cases slash : c = '/'
      · simp [slash] at hc
      · simp [tilde, slash, Ne.symm slash] at hc
  | item i =>
    intro h
    have digit := Nat.isDigit_of_mem_toDigits (by decide) (by decide)
      (show '/' ∈ Nat.toDigits 10 i by simpa [Segment.token] using h)
    cases digit

theorem follow_token {s : Segment} {p : Path} {v w : Value} (h : valueAt? (s :: p) v = some w) :
    ∃ u, follow v s.token.toList = some u ∧ valueAt? p u = some w := by
  cases s with
  | member name =>
    obtain ⟨u, hu, hw⟩ := Option.bind_eq_some_iff.1 h
    cases v with
    | object ms => exact ⟨u, by rwa [follow, unescape_token], hw⟩
    | _ => cases hu
  | item i =>
    cases v with
    | array vs =>
      obtain ⟨u, hu, hw⟩ := Option.bind_eq_some_iff.1 h
      exact ⟨u, by rwa [follow, index?_token], hw⟩
    | _ => cases h

theorem foldlM_follow {p : Path} {v w : Value} (h : valueAt? p v = some w) :
    (p.map fun s => s.token.toList).foldlM follow v = some w := by
  induction p generalizing v with
  | nil => exact h
  | cons s p ih =>
    obtain ⟨u, hu, hw⟩ := follow_token h
    rw [List.map_cons, List.foldlM_cons, hu]
    exact ih hw

theorem toList_pointer_cons (s : Segment) (p : Path) :
    (pointer (s :: p)).toList =
      '/' :: ['/'].intercalate ((s :: p).map fun s => s.token.toList) := by
  induction p generalizing s with
  | nil => simp [pointer]
  | cons t p ih =>
    have split : (pointer (s :: t :: p)).toList =
        '/' :: (s.token.toList ++ (pointer (t :: p)).toList) := by
      simp [pointer]
    rw [split, ih t]
    simp

/-- A place inside a value is found by its pointer. -/
theorem resolve_pointer {p : Path} {v w : Value} (h : valueAt? p v = some w) :
    resolve (pointer p) v = some w := by
  cases p with
  | nil => exact h
  | cons s p =>
    have tokens : ∀ t ∈ (s :: p).map fun s => s.token.toList, '/' ∉ t := by
      intro t ht
      obtain ⟨s, -, rfl⟩ := List.mem_map.1 ht
      exact slash_notMem_token s
    rw [resolve, toList_pointer_cons]
    simp only [if_true]
    rw [List.splitOn_intercalate '/' tokens (by simp)]
    exact foldlM_follow h

example : resolve "/a~1b/1" (.object [("a/b", .array [.null, .bool true])]) =
    some (.bool true) := by
  cbv

end Pointer

end SchemaBoard.Reply
