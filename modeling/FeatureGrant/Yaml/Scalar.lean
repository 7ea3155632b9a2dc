import FeatureGrant.Text.Base64
import FeatureGrant.Text.Blank
import FeatureGrant.Text.LowerCase
import FeatureGrant.Value
import FeatureGrant.Yaml.Tag

/-!
# YAML scalars

The values that scalars of each kind stand for.  A scalar that is tagged as
something its text is not is an error of the system.
-/

namespace FeatureGrant.Yaml

open FeatureGrant.Number FeatureGrant.Text

/-- A value that cannot be represented. -/
def valueError {α : Type} (message : String) : Except Fault α :=
  .error (.system "ValueError" message)

/-- The truth value that a word stands for, in any case. -/
def boolValue (s : List Char) : Except Fault Value :=
  let word := String.ofList (lower s)
  if ["yes", "true", "on"].contains word then .ok (.boolean true)
  else if ["no", "false", "off"].contains word then .ok (.boolean false)
  else .error (.system "KeyError" (quote word))

/-- The value of a digit to a base. -/
def digitValue? (base : Nat) (c : Char) : Option Nat :=
  let n :=
    if c.isDigit then c.toNat - 48
    else if c.isAlpha then c.toLower.toNat - 87
    else base
  if n < base then some n else none

/-- The letter behind the zero of a number to a base. -/
def baseLetter? (base : Nat) : Option Char :=
  [(2, 'b'), (8, 'o'), (16, 'x')].lookup base

/-- Drops the zero and the letter that show the base of a number. -/
def dropBase (base : Nat) (s : List Char) : List Char :=
  match s with
  | '0' :: c :: rest => if baseLetter? base == some c.toLower then rest else s
  | _ => s

/-- The digits of a number without its sign. -/
def takeMinus : List Char → Bool × List Char
  | '-' :: rest => (true, rest)
  | '+' :: rest => (false, rest)
  | s => (false, s)

/-- Reads an integer to a base. -/
def readInt (base : Nat) (s : List Char) : Except Fault Int :=
  let (negative, unsigned) := takeMinus (trim s)
  let digits := dropBase base unsigned
  match digits.mapM (digitValue? base) with
  | none | some [] =>
    valueError ("invalid literal for int() with base " ++ toString base ++ ": "
      ++ quote (String.ofList s))
  | some values =>
    if base == 10 && 4300 < values.length then
      valueError ("Exceeds the limit (4300 digits) for integer string conversion: value has "
        ++ toString values.length
        ++ " digits; use sys.set_int_max_str_digits() to increase the limit")
    else
      let n : Int := (values.foldl (fun n d => base * n + d) 0 : Nat)
      .ok (if negative then -n else n)

/-- What lacks a first character. -/
def noCharacter {α : Type} : Except Fault α :=
  .error (.system "IndexError" "string index out of range")

/-- Reads an integer to one of four bases, or in sixties. -/
def intValue (s : List Char) : Except Fault Value := do
  let s := s.filter (· != '_')
  if s.isEmpty then noCharacter
  let (negative, digits) := takeMinus s
  let n ← match digits with
    | [] => noCharacter
    | ['0'] => .ok 0
    | '0' :: 'b' :: rest => readInt 2 rest
    | '0' :: 'x' :: rest => readInt 16 rest
    | '0' :: _ => readInt 8 digits
    | _ =>
      if digits.contains ':' then do
        let parts ← (digits.splitOn ':').mapM (readInt 10)
        .ok (parts.foldl (fun n part => 60 * n + part) 0)
      else readInt 10 digits
  .ok (.integer (if negative then -n else n))

/-- A decimal number: its sign, its digits and their power of ten. -/
abbrev DecimalText := Bool × Nat × Int

/-- Reads a decimal number. -/
def readDecimal? (s : List Char) : Option DecimalText :=
  let (negative, s) : Bool × List Char := takeMinus s
  let whole := s.takeWhile Char.isDigit
  let rest := s.dropWhile Char.isDigit
  let (fraction, rest) := match rest with
    | '.' :: rest => (rest.takeWhile Char.isDigit, rest.dropWhile Char.isDigit)
    | rest => ([], rest)
  if whole.isEmpty && fraction.isEmpty then none
  else
    let value := Nat.ofDigitChars 10 (whole ++ fraction) 0
    match rest with
    | [] => some (negative, value, -(fraction.length : Int))
    | 'e' :: rest =>
      let (minus, digits) : Bool × List Char := takeMinus rest
      if digits.isEmpty || !digits.all (·.isDigit) then none
      else
        let n : Int := Nat.ofDigitChars 10 digits 0
        some (negative, value, (if minus then -n else n) - fraction.length)
    | _ => none

/-- Reads a floating-point number. -/
def readFloat (s : List Char) : Except Fault Binary64 :=
  let trimmed := trim s
  let (negative, word) := takeMinus trimmed
  if ["inf".toList, "infinity".toList].contains word then .ok (.infinite negative)
  else if word == "nan".toList then .ok .nan
  else
    match readDecimal? trimmed with
    | some (negative, digits, power) => .ok (.ofDecimal negative digits power)
    | none => valueError ("could not convert string to float: " ++ quote (String.ofList s))

/-- A number in sixties as a ratio. -/
def sixties (parts : List DecimalText) : Nat × Nat :=
  let places := parts.foldl (fun (n : Nat) part => max n (-part.2.2).toNat) 0
  let digits := fun (part : DecimalText) =>
    part.2.1 * Nat.pow 10 ((places : Int) + part.2.2).toNat
  (parts.foldl (fun n part => 60 * n + digits part) 0, Nat.pow 10 places)

/-- Changes the sign of a number. -/
def withSign (negative : Bool) : Binary64 → Binary64
  | .nan => .nan
  | .infinite n => .infinite (n != negative)
  | .finite n mantissa exponent => .finite (n != negative) mantissa exponent

/-- Reads a floating-point number, or one in sixties. -/
def floatValue (s : List Char) : Except Fault Value := do
  let s := lower (s.filter (· != '_'))
  if s.isEmpty then noCharacter
  let (negative, digits) := takeMinus s
  if digits == ".inf".toList then .ok (.real (.infinite negative))
  else if digits == ".nan".toList then .ok (.real .nan)
  else if digits.contains ':' then do
    let texts := digits.splitOn ':'
    let _ ← texts.mapM readFloat
    let (num, den) := sixties (texts.filterMap fun t => readDecimal? (trim t))
    .ok (.real (.ofRatio negative num den))
  else do
    let x ← readFloat digits
    .ok (.real (withSign negative x))

/-- The number that digits stand for. -/
def digitsValue (s : List Char) : Nat := Nat.ofDigitChars 10 s 0

/-- Checks a date. -/
def checkDate (year month day : Nat) : Except Fault CivilDate :=
  if year < 1 then valueError ("year " ++ toString year ++ " is out of range")
  else if month < 1 || 12 < month then valueError "month must be in 1..12"
  else if day < 1 || daysInMonth year month < day then
    valueError "day is out of range for month"
  else .ok { year, month, day }

/-- Checks the offset of a time zone, in minutes. -/
def checkOffset (minutes : Int) : Except Fault Int :=
  if minutes.natAbs < 1440 then .ok minutes
  else
    let days := minutes / 1440
    let seconds := minutes % 1440 * 60
    valueError ("offset must be a timedelta strictly between -timedelta(hours=24) and "
      ++ "timedelta(hours=24), not datetime.timedelta(days=" ++ toString days
      ++ (if seconds == 0 then "" else ", seconds=" ++ toString seconds) ++ ")")

/-- The value of a date or a time. -/
def timestampValue (s : List Char) : Except Fault Value :=
  match readTimestamp? s with
  | none =>
    .error (.system "AttributeError" "'NoneType' object has no attribute 'groupdict'")
  | some t => do
    let date := checkDate (digitsValue t.year) (digitsValue t.month) (digitsValue t.day)
    match t.time with
    | none => date.map .date
    | some (hour, minute, second, fraction) =>
      let offset ← match t.zone with
        | none => .ok none
        | some none => .ok (some 0)
        | some (some (sign, hour, minute)) => do
          let minutes : Int := (60 * digitsValue hour + digitsValue minute : Nat)
          let offset ← checkOffset (if sign == '-' then -minutes else minutes)
          .ok (some offset)
      let date ← date
      let hour := digitsValue hour
      let minute := digitsValue minute
      let second := digitsValue second
      let microsecond := digitsValue
        ((fraction ++ List.replicate (6 - fraction.length) '0').take 6)
      if 23 < hour then valueError "hour must be in 0..23"
      else if 59 < minute then valueError "minute must be in 0..59"
      else if 59 < second then valueError "second must be in 0..59"
      else .ok (.time { date, hour, minute, second, microsecond } offset)

/-- The bytes that a scalar in base 64 stands for. -/
def binaryValue (s : List Char) : Except Fault Value :=
  if s.all (·.toNat < 0x80) then
    match decodeBase64 s with
    | .ok bytes => .ok (.bytes bytes)
    | .error _ => .error .malformed
  else .error .malformed

/-- The value of a text. One that is not well formed stays a sequence of
bytes that are no text. -/
def textValue (t : ScalarText) : Value :=
  if t.wellFormed then .text (String.ofList t.chars) else .bytes [0xED, 0xA0, 0x80]

end FeatureGrant.Yaml
