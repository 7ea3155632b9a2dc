import FeatureGrant.Text.Utf8
import FeatureGrant.Yaml.Cursor
import FeatureGrant.Yaml.Token.Basic

/-!
# Names, tags and directives

Reads the tokens that name a node or say what it is, and the directives at the
start of a document.
-/

namespace FeatureGrant.Yaml

open FeatureGrant.Text

/-- Whether a character can stand in a name. -/
def isNameChar (c : Char) : Bool := c.isAlphanum || c == '-' || c == '_'

/-- Whether a character is a hexadecimal digit. -/
def isHex (c : Char) : Bool :=
  c.isDigit || ('a' ≤ c && c ≤ 'f') || ('A' ≤ c && c ≤ 'F')

/-- The number that hexadecimal digits stand for. -/
def hexValue (digits : List Char) : Nat :=
  digits.foldl (fun n c =>
    16 * n + (if c.isDigit then c.toNat - 48 else c.toLower.toNat - 87)) 0

/-- Reads the name of an anchor or an alias behind its mark. -/
def readName (c : Cursor) : Except Fault (String × Cursor) :=
  let (name, c) := c.advance.takeWhile isNameChar
  if name.isEmpty
      || !endsOr (fun ch => isSeparator ch || "?:,]\x7d%@\x60".toList.contains ch) c.rest
  then .error .malformed
  else .ok (String.ofList name, c)

/-- Whether a character can stand in a tag. -/
def isTagChar (c : Char) : Bool :=
  c.isAlphanum || "-;/?:@&=+$,_.!~*'()[]%".toList.contains c

/-- The bytes that escapes at the front of a text stand for, and what is left
of the text. -/
def takeEscapes : List Char → Except Fault (List UInt8 × List Char)
  | '%' :: a :: b :: rest =>
    if isHex a && isHex b then
      match takeEscapes rest with
      | .ok (bytes, rest) => .ok (UInt8.ofNat (hexValue [a, b]) :: bytes, rest)
      | .error fault => .error fault
    else .error .malformed
  | '%' :: _ => .error .malformed
  | s => .ok ([], s)

/-- The characters of a tag at the front of a text, its escapes resolved. -/
def tagChars : (fuel : Nat) → List Char → Except Fault (List Char × List Char)
  | 0, s => .ok ([], s)
  | fuel + 1, s =>
    match s with
    | [] => .ok ([], [])
    | '%' :: _ => do
      let (bytes, rest) ← takeEscapes s
      let chars ← (decodeUtf8 bytes).mapError fun _ => .malformed
      let (more, rest) ← tagChars fuel rest
      .ok (chars ++ more, rest)
    | c :: rest =>
      if isTagChar c then do
        let (more, rest) ← tagChars fuel rest
        .ok (c :: more, rest)
      else .ok ([], s)

/-- Reads the characters of a tag. -/
def readTagChars (c : Cursor) : Except Fault (String × Cursor) := do
  let (chars, rest) ← tagChars c.rest.length c.rest
  if rest.length == c.rest.length then .error .malformed
  else .ok (String.ofList chars, c.advanceBy (c.rest.length - rest.length))

/-- Reads the handle of a tag: one exclamation mark, or a name between two. -/
def readHandle (c : Cursor) : Except Fault (String × Cursor) :=
  match c.rest with
  | '!' :: ' ' :: _ => .ok ("!", c.advance)
  | '!' :: rest =>
    let name := rest.takeWhile isNameChar
    match rest.dropWhile isNameChar with
    | '!' :: _ => .ok (String.ofList ('!' :: name ++ ['!']), c.advanceBy (name.length + 2))
    | _ => .error .malformed
  | _ => .error .malformed

/-- Whether a second exclamation mark follows in a tag. -/
def hasHandle (s : List Char) : Bool :=
  (s.takeWhile fun c => !isSpaceOrBreak c).contains '!'

/-- Reads a tag. -/
def readTag (c : Cursor) : Except Fault (TagText × Cursor) := do
  let (tag, c) ← match c.rest.drop 1 with
    | '<' :: _ => do
      let (suffix, c) ← readTagChars (c.advanceBy 2)
      if c.peek? == some '>' then
        .ok ((⟨none, suffix⟩ : TagText), c.advance)
      else .error .malformed
    | behind =>
      if endsOr isSeparator behind then .ok ((⟨none, "!"⟩ : TagText), c.advance)
      else do
        let (handle, c) ← if hasHandle behind then readHandle c else .ok ("!", c.advance)
        let (suffix, c) ← readTagChars c
        .ok (⟨some handle, suffix⟩, c)
  if endsOr isSpaceOrBreak c.rest then .ok (tag, c) else .error .malformed

/-- Reads a number of a version. -/
def readVersionNumber (c : Cursor) : Except Fault (Nat × Cursor) :=
  let (digits, c) := c.takeWhile (·.isDigit)
  if digits.isEmpty then .error .malformed else .ok (Nat.ofDigitChars 10 digits 0, c)

/-- Reads a directive behind its percent sign. -/
def readDirective (c : Cursor) : Except Fault (Directive × Cursor) := do
  let (name, c) := c.advance.takeWhile isNameChar
  if name.isEmpty || !endsOr isSpaceOrBreak c.rest then .error .malformed
  let (directive, c) ←
    if name == "YAML".toList then do
      let (major, c) ← readVersionNumber (c.skipWhile (· == ' '))
      if c.peek? != some '.' then .error .malformed
      let (minor, c) ← readVersionNumber c.advance
      if !endsOr isSpaceOrBreak c.rest then .error .malformed
      .ok (Directive.version major minor, c)
    else if name == "TAG".toList then do
      let (handle, c) ← readHandle (c.skipWhile (· == ' '))
      if c.peek? != some ' ' then .error .malformed
      let (text, c) ← readTagChars (c.skipWhile (· == ' '))
      if !endsOr isSpaceOrBreak c.rest then .error .malformed
      .ok (Directive.tag handle text, c)
    else .ok (Directive.other, c.skipWhile (!isBreak ·))
  let c ← c.skipCommentLine
  .ok (directive, c)

end FeatureGrant.Yaml
