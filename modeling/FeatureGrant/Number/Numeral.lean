import FeatureGrant.Text.Blank

/-!
# Numerals

Numbers as people write them: the decimal digits of every script count, and a
sign, white space around the number and single separators between its digits are
allowed.
-/

namespace FeatureGrant.Number

open FeatureGrant.Text

/-- The code points of the zeros of Unicode 14. Behind each of them the other nine
digits of its script follow. -/
def zeros : List Nat :=
  [0x30, 0x660, 0x6F0, 0x7C0, 0x966, 0x9E6, 0xA66, 0xAE6, 0xB66, 0xBE6, 0xC66,
   0xCE6, 0xD66, 0xDE6, 0xE50, 0xED0, 0xF20, 0x1040, 0x1090, 0x17E0, 0x1810,
   0x1946, 0x19D0, 0x1A80, 0x1A90, 0x1B50, 0x1BB0, 0x1C40, 0x1C50, 0xA620, 0xA8D0,
   0xA900, 0xA9D0, 0xA9F0, 0xAA50, 0xABF0, 0xFF10, 0x104A0, 0x10D30, 0x11066,
   0x110F0, 0x11136, 0x111D0, 0x112F0, 0x11450, 0x114D0, 0x11650, 0x116C0,
   0x11730, 0x118E0, 0x11950, 0x11C50, 0x11D50, 0x11DA0, 0x16A60, 0x16AC0,
   0x16B50, 0x1D7CE, 0x1D7D8, 0x1D7E2, 0x1D7EC, 0x1D7F6, 0x1E140, 0x1E2F0,
   0x1E950, 0x1FBF0]

/-- The digit from 0 to 9 that a digit of some script stands for. Other characters
stand for themselves. -/
def plainDigit (c : Char) : Char :=
  match zeros.find? fun first => first ≤ c.toNat && c.toNat < first + 10 with
  | some first => Char.ofNat (0x30 + (c.toNat - first))
  | none => c

/-- Digits with single separators between them, without these. -/
def digits? (s : List Char) : Option (List Char) :=
  let groups := (s.map plainDigit).splitOn '_'
  if groups.all fun group => !group.isEmpty && group.all (·.isDigit) then
    some groups.flatten
  else none

/-- Whether a character may stand around a numeral: white space, except for the
control characters that separate units of information. -/
def isMargin (c : Char) : Bool := isBlank c && !(0x1C ≤ c.toNat && c.toNat < 0x20)

/-- A numeral without the white space around it. -/
def bare (s : List Char) : List Char :=
  ((s.dropWhile isMargin).reverse.dropWhile isMargin).reverse

/-- A numeral without its sign, and whether that was a minus sign. -/
def cutSign (s : List Char) : Bool × List Char :=
  match s with
  | '-' :: rest => (true, rest)
  | '+' :: rest => (false, rest)
  | _ => (false, s)

/-- The number that a numeral of at most 4300 digits stands for. -/
def wholeNumber? (s : List Char) : Option Int :=
  let (negative, unsigned) := cutSign (bare s)
  match digits? unsigned with
  | some digits =>
    if 4300 < digits.length then none
    else
      let n : Int := Nat.ofDigitChars 10 digits 0
      some (if negative then -n else n)
  | none => none

/-- Whether a text is a decimal numeral: digits before a point, behind it or
both, and perhaps an exponent. -/
def isPlainDecimal (s : List Char) : Bool :=
  let isExponentMark := fun (c : Char) => c == 'e' || c == 'E'
  let mantissa := s.takeWhile fun c => !isExponentMark c
  let exponent := s.dropWhile fun c => !isExponentMark c
  let whole := mantissa.takeWhile (· != '.')
  let fraction := (mantissa.dropWhile (· != '.')).drop 1
  let isPart := fun (part : List Char) => part.isEmpty || (digits? part).isSome
  isPart whole && isPart fraction && !(whole.isEmpty && fraction.isEmpty)
    && (exponent.isEmpty || (digits? (cutSign exponent.tail).2).isSome)

/-- Whether a text is a decimal numeral or the name of a value that has none. -/
def isDecimal (s : List Char) : Bool :=
  let unsigned := (cutSign (bare s)).2
  let word := String.ofList (unsigned.map Char.toLower)
  isPlainDecimal unsigned || ["inf", "infinity", "nan"].contains word

end FeatureGrant.Number
