import SchemaBoard.Html.Reference.Table

/-!
# Character references

A reference is an ampersand with a number or a name. `decode` replaces every reference of a text by
the characters it stands for and leaves every other ampersand alone. Inside an attribute value a
name without its semicolon is left alone too when a letter, a digit or an equals sign follows it.
-/
namespace SchemaBoard.Html.Reference

def isDigitIn (base : Nat) (c : Char) : Bool :=
  c.isDigit || (base == 16 && (('a' ≤ c && c ≤ 'f') || ('A' ≤ c && c ≤ 'F')))

def digitValue (c : Char) : Nat :=
  if c.isDigit then c.toNat - 48
  else if 'a' ≤ c then c.toNat - 87
  else c.toNat - 55

def numberOf (base : Nat) (digits : List Char) : Nat :=
  digits.foldl (fun n c => n * base + digitValue c) 0

/-- What the numbers from 128 to 159 stand for: printable characters, some of them themselves. -/
def controls : List Nat :=
  [0x20ac, 0x81, 0x201a, 0x192, 0x201e, 0x2026, 0x2020, 0x2021, 0x2c6, 0x2030, 0x160, 0x2039, 0x152,
   0x8d, 0x17d, 0x8f, 0x90, 0x2018, 0x2019, 0x201c, 0x201d, 0x2022, 0x2013, 0x2014, 0x2dc, 0x2122,
   0x161, 0x203a, 0x153, 0x9d, 0x17e, 0x178]

def replacement : Char := '\ufffd'

/-- The character of a number; zero, surrogates and numbers beyond the last character have none. -/
def charOf (n : Nat) : Char :=
  if n = 0 ∨ 0x10ffff < n ∨ (0xd800 ≤ n ∧ n ≤ 0xdfff) then replacement
  else if 0x80 ≤ n ∧ n ≤ 0x9f then Char.ofNat (controls.getD (n - 0x80) n)
  else Char.ofNat n

/-- A numeric reference after its number sign, with the count of characters it takes. -/
def numeric (base : Nat) (cs : List Char) : Option (List Char × Nat) :=
  let digits := cs.takeWhile (isDigitIn base)
  if digits.isEmpty then none
  else
    let stop := if (cs.drop digits.length).head? = some ';' then 1 else 0
    some ([charOf (numberOf base digits)], digits.length + stop)

/-- The longest beginning of a run of letters and digits, no longer than `n`, that is a name read
without a semicolon. -/
def longestLegacy (run : List Char) : Nat → Option (String × Nat)
  | 0 => none
  | n + 1 =>
    match legacy.lookup (String.ofList (run.take (n + 1))) with
    | some text => some (text, n + 1)
    | none => longestLegacy run n

def barsName (c : Char) : Bool := c.isAlphanum || c = '='

/-- A named reference after its ampersand, with the count of characters it takes. -/
def nominal (inValue : Bool) (cs : List Char) : Option (List Char × Nat) :=
  let run := cs.takeWhile Char.isAlphanum
  let ended := (cs.drop run.length).head? = some ';'
  match if ended then named? run else none with
  | some text => some (text.toList, run.length + 1)
  | none =>
    match longestLegacy run run.length with
    | none => none
    | some (text, n) =>
      if inValue && (cs.drop n).head?.any barsName then none else some (text.toList, n)

/-- A reference after its ampersand. -/
def read (inValue : Bool) : List Char → Option (List Char × Nat)
  | '#' :: 'x' :: cs => (numeric 16 cs).map fun (text, n) => (text, n + 2)
  | '#' :: 'X' :: cs => (numeric 16 cs).map fun (text, n) => (text, n + 2)
  | '#' :: cs => (numeric 10 cs).map fun (text, n) => (text, n + 1)
  | cs => nominal inValue cs

/-- Replace every reference of a text. -/
def decode (inValue : Bool) : List Char → List Char
  | [] => []
  | c :: cs =>
    if c = '&' then
      match read inValue cs with
      | some (text, n) => text ++ decode inValue (cs.drop n)
      | none => c :: decode inValue cs
    else c :: decode inValue cs
termination_by cs => cs.length
decreasing_by all_goals simp only [List.length_drop, List.length_cons]; omega

@[simp] theorem decode_nil (inValue : Bool) : decode inValue [] = [] := by simp [decode]

theorem decode_cons (inValue : Bool) {c : Char} (h : c ≠ '&') (cs : List Char) :
    decode inValue (c :: cs) = c :: decode inValue cs := by
  rw [decode, if_neg h]

end SchemaBoard.Html.Reference
