import FeatureGrant.Schema.Violation
import FeatureGrant.Text.Blank
import FeatureGrant.Text.Utf8

/-!
# Checking single values

Texts, truth values and integers, each of which may be given in a few other
ways that are unambiguous.
-/

namespace FeatureGrant.Schema

open FeatureGrant.Text

/-- A text; bytes count as the text that they encode. -/
def text : Value → Checked String
  | .text s => .ok s
  | .bytes b =>
    match decodeUtf8 b with
    | .ok chars => .ok (String.ofList chars)
    | .error _ => flawed .undecodableText
  | _ => flawed .notText

/-- A text that is not empty. -/
def nonemptyText (v : Value) : Checked String :=
  match text v with
  | .ok "" => flawed .emptyText
  | checked => checked

/-- A value or nothing. -/
def nullable {α : Type} (check : Value → Checked α) : Value → Checked (Option α)
  | .null => .ok none
  | v => (check v).map some

/-- The truth value that an integer stands for. -/
def flagOfInt (n : Int) : Checked Bool :=
  if n == 0 then .ok false else if n == 1 then .ok true else flawed .unclearFlag

/-- The truth value that a word stands for, in any case. -/
def flagOfText (s : String) : Checked Bool :=
  let word := s.map Char.toLower
  if ["0", "off", "f", "false", "n", "no"].contains word then .ok false
  else if ["1", "on", "t", "true", "y", "yes"].contains word then .ok true
  else flawed .unclearFlag

/-- A truth value; also the numbers one and zero and a few words. -/
def flag (v : Value) : Checked Bool :=
  match v with
  | .boolean b => .ok b
  | .integer n => flagOfInt n
  | .real x =>
    match x.toInt? with
    | some n => flagOfInt n
    | none => flawed .notFlag
  | .text s => flagOfText s
  | .bytes _ =>
    match text v with
    | .ok s => flagOfText s
    | .error _ => flawed .notFlag
  | _ => flawed .notFlag

/-- Whether a character is skipped around a number. -/
def isNumberBlank (c : Char) : Bool :=
  isBlank c && !(0x1C ≤ c.toNat && c.toNat ≤ 0x1F)

/-- A number without a fraction of zeros. -/
def dropZeroFraction (s : List Char) : List Char :=
  let fraction := s.dropWhile (· != '.')
  if !fraction.isEmpty && (fraction.drop 1).all (· == '0') then
    s.takeWhile (· != '.')
  else s

/-- A number without leading zeros and what separates them. -/
def dropLeadingZeros? (s : List Char) : Option (List Char) :=
  match s with
  | '-' :: _ => some s
  | c :: rest =>
    if '1' ≤ c && c ≤ '9' then some s
    else if c != '0' then none
    else
      match rest.dropWhile fun c => c == '0' || c == '_' with
      | [] => (s.getLast?).map fun c => [c]
      | c :: behind => if '1' ≤ c && c ≤ '9' then some (c :: behind) else none
  | [] => none

/-- Digits with single separators between them, without these. -/
def dropSeparators? (s : List Char) : Option (List Char) :=
  let groups := s.splitOn '_'
  if groups.all (!·.isEmpty) then some groups.flatten else none

/-- Reads an integer without a plus sign. -/
def plainInt? (s : List Char) : Option Int :=
  let (negative, digits) := match s with
    | '-' :: rest => (true, rest)
    | _ => (false, s)
  if digits.isEmpty || !digits.all (·.isDigit) then none
  else
    let n : Int := Nat.ofDigitChars 10 digits 0
    some (if negative then -n else n)

/-- Reads an integer: white space around it, a sign, separators between digits
and a fraction of zeros are allowed. -/
def intOfText (s : String) : Checked Int :=
  let chars := s.toList
  if 4300 < s.utf8ByteSize then flawed .longInteger
  else
    let trimmed := (((chars.dropWhile isNumberBlank).reverse).dropWhile isNumberBlank).reverse
    let unsigned := match trimmed with
      | '+' :: '-' :: _ => none
      | '+' :: rest => some rest
      | s => some s
    match (unsigned.bind fun s => dropLeadingZeros? (dropZeroFraction s)).bind
        dropSeparators? |>.bind plainInt? with
    | some n => .ok n
    | none => flawed .unreadableInteger

/-- An integer; also a floating-point number that is one, and its digits. -/
def integer (v : Value) : Checked Int :=
  match v with
  | .boolean b => .ok (if b then 1 else 0)
  | .integer n => .ok n
  | .real .nan | .real (.infinite _) => flawed .notFinite
  | .real x =>
    match x.toInt? with
    | some n => .ok n
    | none => flawed .fractionalInteger
  | .text s => intOfText s
  | .bytes _ =>
    match text v with
    | .ok s => intOfText s
    | .error _ => flawed .unreadableInteger
  | _ => flawed .notInteger

end FeatureGrant.Schema
