import SchemaBoard.Html.Reference
import SchemaBoard.Html.Token

/-!
# Reading tokens

`next?` reads one token from the front of a text, whose line ends are line feeds. What it reads
depends on the kind of content that is expected and on whether the innermost open element is
foreign, for only there a character-data section is text. A tag that the end of the text cuts off is
void. Every token takes at least one character: `next?_length`.
-/
namespace SchemaBoard.Html.Scan

/-- The blanks that part the pieces of a tag. -/
def isBlank (c : Char) : Bool := c = ' ' || c = '\n' || c = '\t' || c = '\x0c'

def endsName (c : Char) : Bool := isBlank c || c = '/' || c = '>'

def replaceNul (c : Char) : Char := if c = '\x00' then '\ufffd' else c

/-- Names of tags and attributes are read without regard to ASCII case. -/
def normalName (cs : List Char) : String := String.ofList (cs.map fun c => replaceNul c.toLower)

def valueText (cs : List Char) : String :=
  String.ofList (Reference.decode true (cs.map replaceNul))

/-- Of attributes with one name the first counts. -/
def addAttribute (found : List Attribute) (name : String) (value : String) : List Attribute :=
  if found.any (·.name = name) then found else found ++ [⟨name, value⟩]

/-- What is left after the first greater-than sign. -/
def afterAngle (cs : List Char) : List Char := (cs.dropWhile (· ≠ '>')).drop 1

theorem length_dropWhile_le (p : Char → Bool) (cs : List Char) :
    (cs.dropWhile p).length ≤ cs.length :=
  (List.dropWhile_sublist p).length_le

theorem length_afterAngle_le (cs : List Char) : (afterAngle cs).length ≤ cs.length := by
  have := length_dropWhile_le (· ≠ '>') cs
  simp only [afterAngle, List.length_drop]
  omega

/-- An attribute's value, from behind its equals sign; `none` when the text ends inside it. -/
def attributeValue (cs : List Char) : Option (List Char × List Char) :=
  match cs.dropWhile isBlank with
  | [] => none
  | '\x22' :: r =>
    match r.dropWhile (· ≠ '\x22') with
    | [] => none
    | _ :: rest => some (r.takeWhile (· ≠ '\x22'), rest)
  | '\x27' :: r =>
    match r.dropWhile (· ≠ '\x27') with
    | [] => none
    | _ :: rest => some (r.takeWhile (· ≠ '\x27'), rest)
  | r => some (r.takeWhile (fun c => !(isBlank c || c = '>')),
      r.dropWhile (fun c => !(isBlank c || c = '>')))

theorem length_attributeValue_le {cs value rest : List Char}
    (h : attributeValue cs = some (value, rest)) : rest.length ≤ cs.length := by
  have blanks := length_dropWhile_le isBlank cs
  unfold attributeValue at h
  split at h
  · simp at h
  · next r hr =>
    rw [hr] at blanks
    have := length_dropWhile_le (· ≠ '\x22') r
    split at h
    · simp at h
    · next hd =>
      rw [hd] at this
      simp only [Option.some.injEq, Prod.mk.injEq] at h
      simp only [List.length_cons] at this blanks
      rw [← h.2]; omega
  · next r hr =>
    rw [hr] at blanks
    have := length_dropWhile_le (· ≠ '\x27') r
    split at h
    · simp at h
    · next hd =>
      rw [hd] at this
      simp only [Option.some.injEq, Prod.mk.injEq] at h
      simp only [List.length_cons] at this blanks
      rw [← h.2]; omega
  · simp only [Option.some.injEq, Prod.mk.injEq] at h
    have := length_dropWhile_le (fun c => !(isBlank c || c = '>')) (cs.dropWhile isBlank)
    rw [← h.2]; omega

def endsAttributeName (c : Char) : Bool := endsName c || c = '='

/-- What a tag holds next behind its name, blanks left out: nothing more since the text ends, the
end of the tag, a stroke without meaning, or an attribute. -/
inductive Piece where
  | cut
  | ending (closed : Bool) (rest : List Char)
  | stroke (rest : List Char)
  | attribute (name value : String) (rest : List Char)

def Piece.rest : Piece → List Char
  | .cut => []
  | .ending _ r => r
  | .stroke r => r
  | .attribute _ _ r => r

/-- The value of an attribute whose name was just read. -/
def named (name : String) (cs : List Char) : Piece :=
  match cs.dropWhile isBlank with
  | '=' :: r =>
    match attributeValue r with
    | some (value, rest) => .attribute name (valueText value) rest
    | none => .cut
  | r => .attribute name "" r

def piece : List Char → Piece
  | [] => .cut
  | '>' :: r => .ending false r
  | '/' :: '>' :: r => .ending true r
  | '/' :: r => .stroke r
  | c :: r =>
    named (normalName (c :: r.takeWhile fun d => !endsAttributeName d))
      (r.dropWhile fun d => !endsAttributeName d)

theorem length_named_le (name : String) (cs : List Char) :
    (named name cs).rest.length ≤ cs.length := by
  have blanks := length_dropWhile_le isBlank cs
  unfold named
  split
  · next r hr =>
    rw [hr, List.length_cons] at blanks
    split
    · next h =>
      have := length_attributeValue_le h
      simp only [Piece.rest]; omega
    · simp [Piece.rest]
  · exact blanks

theorem length_piece_lt {cs : List Char} (h : cs ≠ []) : (piece cs).rest.length < cs.length := by
  unfold piece
  split
  · exact absurd rfl h
  · simp [Piece.rest]
  · simp only [Piece.rest, List.length_cons]; omega
  · simp [Piece.rest]
  · next c r _ _ _ =>
    have := length_named_le (normalName (c :: r.takeWhile fun d => !endsAttributeName d))
      (r.dropWhile fun d => !endsAttributeName d)
    have := length_dropWhile_le (fun d => !endsAttributeName d) r
    simp only [List.length_cons]; omega

theorem length_rest_lt {cs : List Char} {p : Piece} (h : piece (cs.dropWhile isBlank) = p)
    (cut : p ≠ .cut) : p.rest.length < cs.length := by
  have ne : cs.dropWhile isBlank ≠ [] := by
    intro e
    rw [e] at h
    exact cut h.symm
  have := length_piece_lt ne
  have := length_dropWhile_le isBlank cs
  rw [h] at *
  omega

/-- The attributes of a tag, whether it closes itself, and what follows it; `none` when the text
ends inside the tag. -/
def attributes (found : List Attribute) (cs : List Char) :
    Option (List Attribute × Bool × List Char) :=
  match _h : piece (cs.dropWhile isBlank) with
  | .cut => none
  | .ending closed rest => some (found, closed, rest)
  | .stroke rest => attributes found rest
  | .attribute name value rest => attributes (addAttribute found name value) rest
termination_by cs.length
decreasing_by
  · exact length_rest_lt _h nofun
  · exact length_rest_lt _h nofun

theorem length_attributes_lt {found all : List Attribute} {cs rest : List Char} {closed : Bool}
    (h : attributes found cs = some (all, closed, rest)) : rest.length < cs.length := by
  fun_induction attributes found cs with
  | case1 => simp at h
  | case2 found cs closed' rest' hp =>
    simp only [Option.some.injEq, Prod.mk.injEq] at h
    rw [← h.2.2]
    exact length_rest_lt hp nofun
  | case3 found cs rest' hp ih => exact Nat.lt_trans (ih h) (length_rest_lt hp nofun)
  | case4 found cs name value rest' hp ih => exact Nat.lt_trans (ih h) (length_rest_lt hp nofun)

def endsTagName (c : Char) : Bool := endsName c

/-- A tag from its name on. -/
def tag (opens : Bool) (cs : List Char) : Token × List Char :=
  let name := normalName (cs.takeWhile fun c => !endsTagName c)
  match attributes [] (cs.dropWhile fun c => !endsTagName c) with
  | none => (.void, [])
  | some (found, closed, rest) =>
    (if opens then .opening ⟨name, found, closed⟩ else .closing name, rest)

/-- What is left after a comment, from behind its opening. -/
def afterComment : List Char → List Char
  | [] => []
  | '-' :: '-' :: '>' :: r => r
  | '-' :: '-' :: '!' :: '>' :: r => r
  | _ :: r => afterComment r

/-- A comment may also end with the dashes of its opening. -/
def comment : List Char → List Char
  | '>' :: r => r
  | '-' :: '>' :: r => r
  | r => afterComment r

/-- A section of character data and what is left after it. -/
def section? : List Char → List Char → List Char × List Char
  | found, [] => (found.reverse, [])
  | found, ']' :: ']' :: '>' :: r => (found.reverse, r)
  | found, c :: r => section? (c :: found) r

/-- Markup from behind `<!`. -/
def declaration (foreign : Bool) (cs : List Char) : Token × List Char :=
  if cs.take 2 = ['-', '-'] then (.comment, comment (cs.drop 2))
  else if (cs.take 7).map Char.toLower = "doctype".toList then (.void, afterAngle cs)
  else if foreign && cs.take 7 = "[CDATA[".toList then
    let (found, rest) := section? [] (cs.drop 7)
    (.text found, rest)
  else (.comment, afterAngle cs)

/-- Markup from behind its less-than sign, which is text where no markup follows. -/
def markup (foreign : Bool) : List Char → Token × List Char
  | '!' :: r => declaration foreign r
  | '?' :: r => (.comment, afterAngle r)
  | ['/'] => (.text ['<', '/'], [])
  | '/' :: '>' :: r => (.void, r)
  | '/' :: c :: r => if c.isAlpha then tag false (c :: r) else (.comment, afterAngle (c :: r))
  | c :: r => if c.isAlpha then tag true (c :: r) else (.text ['<'], c :: r)
  | [] => (.text ['<'], [])

/-- Whether the text from behind a less-than sign closes the element of this name. -/
def closes (name : List Char) (cs : List Char) : Bool :=
  match cs with
  | '/' :: r =>
    (r.take name.length).map Char.toLower = name && (r.drop name.length).head?.any endsName
  | _ => false

/-- The text up to the closing tag of an element, and the rest. -/
def untilClosed (name : List Char) : List Char → List Char → List Char × List Char
  | found, [] => (found.reverse, [])
  | found, c :: r =>
    if c = '<' && closes name r then (found.reverse, c :: r) else untilClosed name (c :: found) r

/-- Inside a script a comment hides closing tags that belong to a script opened in the comment. -/
inductive ScriptState where
  | open
  | hidden (dashes : Nat)
  | nested (dashes : Nat)

def scriptName : List Char := "script".toList

/-- Whether a script is opened behind a less-than sign. -/
def opensScript (cs : List Char) : Bool := closes scriptName ('/' :: cs)

/-- The state after one more character `c`, whose rest is `r`, that does not end the script. -/
def ScriptState.after (c : Char) (r : List Char) : ScriptState → ScriptState
  | .open => if c = '<' && r.take 3 = ['!', '-', '-'] then .hidden 0 else .open
  | .hidden n =>
    if c = '-' then .hidden (n + 1)
    else if c = '>' && 2 ≤ n then .open
    else if c = '<' && opensScript r then .nested 0
    else .hidden 0
  | .nested n =>
    if c = '-' then .nested (n + 1)
    else if c = '>' && 2 ≤ n then .open
    else if c = '<' && closes scriptName r then .hidden 0
    else .nested 0

def ScriptState.endsAt (c : Char) (r : List Char) : ScriptState → Bool
  | .nested _ => false
  | _ => c = '<' && closes scriptName r

/-- The text of a script and the rest, which begins with the closing tag. -/
def script : ScriptState → List Char → List Char → List Char × List Char
  | _, found, [] => (found.reverse, [])
  | s, found, c :: r =>
    if s.endsAt c r then (found.reverse, c :: r) else script (s.after c r) (c :: found) r

/-- A run of text before a closing tag, or the closing tag itself. -/
def textOrClosing (split : List Char × List Char) (value : List Char → List Char) :
    Token × List Char :=
  match split with
  | ([], '<' :: '/' :: r) => tag false r
  | ([], r) => (.void, r.drop 1)
  | (found, r) => (.text (value (found.map replaceNul)), r)

/-- One token from the front of a text. -/
def next? (content : Content) (foreign : Bool) (cs : List Char) : Option (Token × List Char) :=
  match cs with
  | [] => none
  | c :: r =>
    some <|
      match content with
      | .data =>
        if c = '<' then markup foreign r
        else (.text (Reference.decode false ((c :: r).takeWhile (· ≠ '<'))),
          r.dropWhile (· ≠ '<'))
      | .escapable name =>
        textOrClosing (untilClosed name.toList [] (c :: r)) (Reference.decode false)
      | .raw name => textOrClosing (untilClosed name.toList [] (c :: r)) id
      | .script => textOrClosing (script .open [] (c :: r)) id
      | .plain => (.text ((c :: r).map replaceNul), [])

theorem length_tag_lt (opens : Bool) {cs : List Char} (h : cs ≠ []) :
    (tag opens cs).2.length < cs.length := by
  have := length_dropWhile_le (fun c => !endsTagName c) cs
  have pos := List.length_pos_iff.2 h
  unfold tag
  split
  · exact pos
  · next ha =>
    have := length_attributes_lt ha
    simp only
    omega

theorem length_afterComment_le (cs : List Char) : (afterComment cs).length ≤ cs.length := by
  fun_induction afterComment cs with
  | case1 => simp
  | case2 => simp only [List.length_cons]; omega
  | case3 => simp only [List.length_cons]; omega
  | case4 c r _ _ ih => simp only [List.length_cons]; omega

theorem length_comment_le (cs : List Char) : (comment cs).length ≤ cs.length := by
  unfold comment
  split
  · simp
  · simp only [List.length_cons]; omega
  · exact length_afterComment_le cs

theorem length_section?_le (found cs : List Char) :
    (section? found cs).2.length ≤ cs.length := by
  fun_induction section? found cs <;> simp_all only [List.length_cons] <;> omega

theorem length_declaration_le (foreign : Bool) (cs : List Char) :
    (declaration foreign cs).2.length ≤ cs.length := by
  unfold declaration
  split
  · have := length_comment_le (cs.drop 2)
    simp only [List.length_drop] at this ⊢
    omega
  split
  · exact length_afterAngle_le cs
  split
  · have := length_section?_le [] (cs.drop 7)
    simp only [List.length_drop] at this ⊢
    omega
  · exact length_afterAngle_le cs

theorem length_markup_le (foreign : Bool) (cs : List Char) :
    (markup foreign cs).2.length ≤ cs.length := by
  unfold markup
  split
  · next r =>
    have := length_declaration_le foreign r
    simp only [List.length_cons]; omega
  · next r =>
    have := length_afterAngle_le r
    simp only [List.length_cons]; omega
  · simp
  · simp only [List.length_cons]; omega
  · next c r _ =>
    split
    · have := length_tag_lt false (List.cons_ne_nil c r)
      simp only [List.length_cons] at this ⊢; omega
    · have := length_afterAngle_le (c :: r)
      simp only [List.length_cons] at this ⊢; omega
  · next c r _ _ _ _ _ =>
    split
    · exact Nat.le_of_lt (length_tag_lt true (List.cons_ne_nil c r))
    · simp
  · simp

/-- A split loses nothing. -/
theorem length_untilClosed (name found cs : List Char) :
    (untilClosed name found cs).1.length + (untilClosed name found cs).2.length
      = found.length + cs.length := by
  fun_induction untilClosed name found cs <;> simp_all only [List.length_reverse, List.length_cons]
  omega

theorem length_script (s : ScriptState) (found cs : List Char) :
    (script s found cs).1.length + (script s found cs).2.length
      = found.length + cs.length := by
  fun_induction script s found cs <;> simp_all only [List.length_reverse, List.length_cons]
  omega

theorem length_textOrClosing_lt {split : List Char × List Char} (value : List Char → List Char)
    {n : Nat} (pos : 0 < n) (h : split.1.length + split.2.length = n) :
    (textOrClosing split value).2.length < n := by
  unfold textOrClosing
  split
  · next r =>
    simp only [List.length_nil, List.length_cons] at h
    by_cases e : r = []
    · subst e
      simp only [tag, List.dropWhile_nil, attributes, piece]
      exact pos
    · have := length_tag_lt false e
      omega
  · simp only [List.length_nil, List.length_drop] at h ⊢
    omega
  · next found r _ hne =>
    simp only at h ⊢
    have := List.length_pos_iff.2 (show found ≠ [] from hne)
    omega

/-- Every token takes at least one character. -/
theorem next?_length {content : Content} {foreign : Bool} {cs rest : List Char} {t : Token}
    (h : next? content foreign cs = some (t, rest)) : rest.length < cs.length := by
  unfold next? at h
  split at h
  · simp at h
  · next c r =>
    simp only [Option.some.injEq] at h
    have pos : 0 < (c :: r).length := by simp
    have : ∀ p : Token × List Char, p = (t, rest) → p.2.length < (c :: r).length →
        rest.length < (c :: r).length := by
      intro p e hp
      rw [e] at hp
      exact hp
    refine this _ h ?_
    split
    · split
      · have := length_markup_le foreign r
        simp only [List.length_cons]; omega
      · have := length_dropWhile_le (· ≠ '<') r
        simp only [List.length_cons]; omega
    · exact length_textOrClosing_lt _ pos (by rw [length_untilClosed]; simp)
    · exact length_textOrClosing_lt _ pos (by rw [length_untilClosed]; simp)
    · exact length_textOrClosing_lt _ pos (by rw [length_script]; simp)
    · exact pos

end SchemaBoard.Html.Scan
