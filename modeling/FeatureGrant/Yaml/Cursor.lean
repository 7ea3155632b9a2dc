/-!
# Places in a YAML text

The text that is left, with the place where it starts.  Lines are ended by
line feeds, carriage returns, and the next-line, line and paragraph
separators; a byte order mark takes no column.
-/

namespace FeatureGrant.Yaml

/-- Why a text has no value: it is malformed, or a value in it cannot be
represented, which is reported as an error of the system. -/
inductive Fault
  | malformed
  | system (kind message : String)
  deriving DecidableEq, Repr

/-- Whether a character ends a line. -/
def isBreak (c : Char) : Bool :=
  c == '\n' || c == '\r' || c == '\x85' || c == '\u2028' || c == '\u2029'

/-- Whether a character is a space or ends a line. -/
def isSpaceOrBreak (c : Char) : Bool := c == ' ' || isBreak c

/-- Whether a character is a space, a tab or ends a line. -/
def isSeparator (c : Char) : Bool := c == ' ' || c == '\t' || isBreak c

/-- Whether the text ends here or goes on with a character of a class. -/
def endsOr (p : Char → Bool) (s : List Char) : Bool := s.head?.all p

/-- What is left of a text, and the place where that starts. -/
structure Cursor where
  rest : List Char
  index : Nat
  line : Nat
  column : Nat

namespace Cursor

/-- The start of a text. -/
def start (s : List Char) : Cursor := { rest := s, index := 0, line := 0, column := 0 }

/-- The next character. -/
def peek? (c : Cursor) : Option Char := c.rest.head?

/-- Moves behind the next character. -/
def advance (c : Cursor) : Cursor :=
  match c.rest with
  | [] => c
  | ch :: rest =>
    if isBreak ch && !(ch == '\r' && rest.head? == some '\n') then
      { rest, index := c.index + 1, line := c.line + 1, column := 0 }
    else if ch == '\uFEFF' then { c with rest, index := c.index + 1 }
    else { c with rest, index := c.index + 1, column := c.column + 1 }

/-- Moves behind the next `n` characters. -/
def advanceBy (c : Cursor) : Nat → Cursor
  | 0 => c
  | n + 1 => c.advance.advanceBy n

/-- Moves behind all characters of a class. -/
def skipWhile (c : Cursor) (p : Char → Bool) : Cursor :=
  c.advanceBy (c.rest.takeWhile p).length

/-- Takes all characters of a class. -/
def takeWhile (c : Cursor) (p : Char → Bool) : List Char × Cursor :=
  let taken := c.rest.takeWhile p
  (taken, c.advanceBy taken.length)

/-- Takes the end of a line, if the text goes on with one. All but the line
and paragraph separators count as a line feed. -/
def takeBreak (c : Cursor) : Option Char × Cursor :=
  match c.rest with
  | '\r' :: '\n' :: _ => (some '\n', c.advanceBy 2)
  | ch :: _ =>
    if ch == '\n' || ch == '\r' || ch == '\x85' then (some '\n', c.advance)
    else if isBreak ch then (some ch, c.advance)
    else (none, c)
  | [] => (none, c)

/-- Moves behind the rest of a line that may hold a comment and nothing
else. -/
def skipCommentLine (c : Cursor) : Except Fault Cursor :=
  let c := c.skipWhile (· == ' ')
  let c := if c.peek? == some '#' then c.skipWhile (!isBreak ·) else c
  if endsOr isBreak c.rest then .ok c.takeBreak.2 else .error .malformed

/-- Whether a line marker of three characters stands here, with nothing behind
it but white space. -/
def atMarker (c : Cursor) (mark : Char) : Bool :=
  [mark, mark, mark].isPrefixOf c.rest && endsOr isSeparator (c.rest.drop 3)

/-- Whether a document ends or starts here. -/
def atDocumentMarker (c : Cursor) : Bool := c.atMarker '-' || c.atMarker '.'

end Cursor

end FeatureGrant.Yaml
