import FeatureGrant.Text.Blank

/-!
# Marked-up text

Text for a console that reads style tags: a tag is a word in brackets, and one
that starts with a slash closes an earlier one.  Backslashes before a tag are
halved, and an odd one makes it plain text; before another bracket one backslash
is dropped.
-/

namespace FeatureGrant.Console

open FeatureGrant.Text

/-- A piece of marked-up text: characters to be shown, or a tag. -/
inductive Piece
  | text (chars : List Char)
  | tag (name : List Char)
  deriving DecidableEq, Repr

/-- Whether a tag may start with a character. -/
def startsTag (c : Char) : Bool := ('a' ≤ c && c ≤ 'z') || c == '#' || c == '/' || c == '@'

/-- Whether a character is no bracket. -/
def isInsideTag (c : Char) : Bool := c != '[' && c != ']'

/-- The tag at the start of a text, and what follows it. -/
def tag? (s : List Char) : Option (List Char × List Char) :=
  match s with
  | '[' :: c :: rest =>
    if startsTag c then
      match rest.dropWhile isInsideTag with
      | ']' :: behind => some (c :: rest.takeWhile isInsideTag, behind)
      | _ => none
    else none
  | _ => none

theorem tag?_length {s name behind : List Char} (h : tag? s = some (name, behind)) :
    behind.length < s.length := by
  unfold tag? at h
  split at h
  next c rest =>
    split at h
    · split at h
      next behind' hrest =>
        have hle := (rest.dropWhile_sublist isInsideTag).length_le
        rw [hrest] at hle
        obtain rfl : behind' = behind := by simpa using (Prod.mk.inj (Option.some.inj h)).2
        simp only [List.length_cons] at hle ⊢
        omega
      · simp at h
    · simp at h
  · simp at h

/-- The backslashes at the start of a text, and the tag behind them. -/
def guardedTag? (s : List Char) : Option (Nat × List Char × List Char) :=
  (tag? (s.dropWhile (· == '\\'))).map fun (name, behind) =>
    ((s.takeWhile (· == '\\')).length, name, behind)

theorem guardedTag?_length {s name behind : List Char} {n : Nat}
    (h : guardedTag? s = some (n, name, behind)) : behind.length < s.length := by
  simp only [guardedTag?, Option.map_eq_some_iff] at h
  obtain ⟨⟨name', behind'⟩, htag, heq⟩ := h
  have hlt := tag?_length htag
  have hle := (s.dropWhile_sublist (· == '\\')).length_le
  obtain rfl : behind' = behind := by simpa using (Prod.mk.inj (Prod.mk.inj heq).2).2
  omega

/-- A tag in its brackets. -/
def bracketTag (name : List Char) : List Char := '[' :: name ++ [']']

/-- The pieces of a marked-up text. -/
def pieces (s : List Char) : List Piece :=
  match h : guardedTag? s with
  | some (slashes, name, behind) =>
    .text (List.replicate (slashes / 2) '\\')
      :: (if slashes % 2 == 0 then .tag name else .text (bracketTag name))
      :: pieces behind
  | none =>
    match s with
    | [] => []
    | c :: rest =>
      if c == '\\' && rest.head? == some '[' then .text ['['] :: pieces rest.tail
      else .text [c] :: pieces rest
termination_by s.length
decreasing_by
  · exact guardedTag?_length h
  · simp only [List.length_tail, List.length_cons]; omega
  · simp

/-- Doubles the backslashes before every tag and adds one, so that it is shown
as it is. -/
def escapeTags (s : List Char) : List Char :=
  match _h : guardedTag? s with
  | some (slashes, name, behind) =>
    List.replicate (2 * slashes + 1) '\\' ++ bracketTag name ++ escapeTags behind
  | none =>
    match s with
    | [] => []
    | c :: rest => c :: escapeTags rest
termination_by s.length
decreasing_by
  · exact guardedTag?_length _h
  · simp

/-- A text in which no tag is read. A single backslash at the end is doubled, so
that it does not guard a tag that follows. -/
def escape (text : String) : String :=
  let escaped := escapeTags text.toList
  let last := escaped.reverse
  String.ofList
    (if last.head? == some '\\' && last.tail.head? != some '\\' then escaped ++ ['\\']
     else escaped)

/-- Whether a console shows a character at all. -/
def isShown (c : Char) : Bool :=
  !([0x07, 0x08, 0x0B, 0x0C, 0x0D].contains c.toNat)

/-- The style that a tag names. This is for the tags of the program's own texts,
which are plain words: other names of a style are not traced to it, and a tag
that names a handler is like any other. -/
def styleOf (name : List Char) : List Char :=
  (trim (name.takeWhile (· != '='))).map Char.toLower

/-- What is shown of a text while the styles `opened` are open. A closing tag
must close one of them. -/
def shownPieces? (opened : List (List Char)) : List Piece → Option (List Char)
  | [] => some []
  | .text chars :: rest => (shownPieces? opened rest).map (chars.filter isShown ++ ·)
  | .tag ('/' :: name) :: rest =>
    let style := styleOf name
    if style.isEmpty then
      match opened with
      | [] => none
      | _ :: outer => shownPieces? outer rest
    else if opened.contains style then shownPieces? (opened.erase style) rest
    else none
  | .tag name :: rest => shownPieces? (styleOf name :: opened) rest

/-- What is shown of a marked-up text. The name of an emoji between colons stays
as it is spelled. -/
def shown? (marked : String) : Option String :=
  (shownPieces? [] (pieces marked.toList)).map String.ofList

end FeatureGrant.Console
