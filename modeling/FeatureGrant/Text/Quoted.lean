import FeatureGrant.Text.Printable

/-!
# Quoted text

A text between quotation marks, as it is shown in messages.  Single marks are
used unless the text holds a single mark and no double one.  The mark itself,
the backslash and unprintable characters are escaped, the latter by their
shortest numeric escape.
-/

namespace FeatureGrant.Text

/-- The `width` lowest hexadecimal digits of a number. -/
def hexDigits : (width n : Nat) → List Char
  | 0, _ => []
  | w + 1, n => hexDigits w (n / 16) ++ [Nat.digitChar (n % 16)]

/-- The numeric escape of a code point: two, four or eight digits. -/
def numericEscape (n : Nat) : List Char :=
  if n < 0x100 then ['\\', 'x'] ++ hexDigits 2 n
  else if n < 0x10000 then ['\\', 'u'] ++ hexDigits 4 n
  else ['\\', 'U'] ++ hexDigits 8 n

/-- How a character is written between quotation marks `mark`. -/
def quoteChar (mark c : Char) : List Char :=
  if c == mark || c == '\\' then ['\\', c]
  else if c == '\n' then ['\\', 'n']
  else if c == '\r' then ['\\', 'r']
  else if c == '\t' then ['\\', 't']
  else if isPrintable c then [c]
  else numericEscape c.toNat

/-- The quotation mark that suits a text. -/
def quotationMark (s : List Char) : Char :=
  if s.contains '\'' && !(s.contains '"') then '"' else '\''

/-- The characters of a text in quotation marks. -/
def quoteChars (s : List Char) : List Char :=
  let mark := quotationMark s
  mark :: s.flatMap (quoteChar mark) ++ [mark]

/-- A text in quotation marks. -/
def quote (s : String) : String := String.ofList (quoteChars s.toList)

/-- Bytes in quotation marks behind a `b`, all that is not printable ASCII
being escaped. -/
def quoteBytes (bytes : List UInt8) : String :=
  let s := bytes.map fun b => Char.ofNat b.toNat
  let mark := quotationMark s
  let shown := fun (c : Char) =>
    if 0x7F ≤ c.toNat then numericEscape c.toNat else quoteChar mark c
  String.ofList (['b', mark] ++ s.flatMap shown ++ [mark])

end FeatureGrant.Text
