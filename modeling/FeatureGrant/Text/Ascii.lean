import FeatureGrant.Text.Quoted

/-!
# ASCII text

Recognizes ASCII text, and finds the first run of other characters in a text
that should be ASCII.
-/

namespace FeatureGrant.Text

/-- Whether a character is ASCII. -/
def isAsciiChar (c : Char) : Bool := c.toNat < 0x80

/-- Whether all characters are ASCII. -/
def isAscii (s : List Char) : Bool := s.all isAsciiChar

/-- Whether a character is an ASCII control character. -/
def isAsciiControl (c : Char) : Bool := c.toNat < 0x20 || c.toNat == 0x7F

/-- A run of characters that are not ASCII, and its place. -/
structure ForeignRun where
  start : Nat
  chars : List Char
  deriving DecidableEq, Repr

/-- The first run of characters that are not ASCII. -/
def foreignRun? (s : List Char) : Option ForeignRun :=
  match s.dropWhile isAsciiChar with
  | [] => none
  | c :: rest =>
    some { start := (s.takeWhile isAsciiChar).length
           chars := c :: rest.takeWhile fun c => !isAsciiChar c }

/-- What is wrong with a text that holds such a run. -/
def ForeignRun.message (r : ForeignRun) : String :=
  match r.chars with
  | [c] =>
    "'ascii' codec can't encode character '" ++ String.ofList (numericEscape c.toNat)
      ++ "' in position " ++ toString r.start ++ ": ordinal not in range(128)"
  | chars =>
    "'ascii' codec can't encode characters in position " ++ toString r.start ++ "-"
      ++ toString (r.start + chars.length - 1) ++ ": ordinal not in range(128)"

end FeatureGrant.Text
