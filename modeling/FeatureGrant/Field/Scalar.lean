import FeatureGrant.Field.Item
import FeatureGrant.Text.Base64
import FeatureGrant.Text.Utf8

/-!
# Reading single values

Each reader takes a value off the front of a text and returns it with what is
left; it fails if the text does not start with such a value.  Main statement:
a value takes at least one character.
-/

namespace FeatureGrant.Field

open FeatureGrant.Text

/-- A value read off the front of a text, and what is left of the text. -/
abbrev Taken (α : Type) := Option (α × List Char)

/-- Whether a character can start a key. -/
def isKeyStart (c : Char) : Bool := c.isLower || c == '*'

/-- Whether a character can stand in a key. -/
def isKeyChar (c : Char) : Bool :=
  c.isLower || c.isDigit || c == '_' || c == '-' || c == '.' || c == '*'

/-- Whether a character can start a token. -/
def isTokenStart (c : Char) : Bool := c.isAlpha || c == '*'

/-- Whether a character can stand in a token. -/
def isTokenChar (c : Char) : Bool :=
  c.isAlphanum || ":/!#$%&'*+-.^_\x60|~".toList.contains c

/-- Whether a character is printable ASCII. -/
def isVisible (c : Char) : Bool := 0x20 ≤ c.toNat && c.toNat ≤ 0x7E

/-- Reads a key. -/
def readKey : List Char → Taken String
  | [] => none
  | c :: rest =>
    if isKeyStart c then
      some (String.ofList (c :: rest.takeWhile isKeyChar), rest.dropWhile isKeyChar)
    else none

/-- Reads a token. -/
def readToken : List Char → Taken BareItem
  | [] => none
  | c :: rest =>
    if isTokenStart c then
      some (.token (String.ofList (c :: rest.takeWhile isTokenChar)),
        rest.dropWhile isTokenChar)
    else none

/-- Reads the characters of a text up to the closing quotation mark. A
backslash stands only before a backslash or a quotation mark. -/
def readQuoted : List Char → Taken (List Char)
  | [] => none
  | '"' :: rest => some ([], rest)
  | ['\\'] => none
  | '\\' :: c :: rest =>
    if c == '"' || c == '\\' then
      (readQuoted rest).map fun (cs, rest) => (c :: cs, rest)
    else none
  | c :: rest =>
    if isVisible c then (readQuoted rest).map fun (cs, rest) => (c :: cs, rest)
    else none

/-- Takes a minus sign off the front. -/
def takeSign : List Char → Bool × List Char
  | '-' :: rest => (true, rest)
  | s => (false, s)

/-- Reads an integer of up to 15 digits, or a decimal number of up to 12
digits before the point and 3 behind it. Behind leading zeros a 16th digit of
an integer is taken at the end of the text. -/
def readNumber (s : List Char) : Taken BareItem :=
  let (negative, unsigned) := takeSign s
  let whole := unsigned.takeWhile (·.isDigit)
  let rest := unsigned.dropWhile (·.isDigit)
  let value := Nat.ofDigitChars 10 whole 0
  if whole.isEmpty then none
  else
    match rest with
    | '.' :: behind =>
      let fraction := behind.takeWhile (·.isDigit)
      if 12 < whole.length || 3 < fraction.length then none
      else some (.decimal ⟨negative, value, fraction⟩, behind.dropWhile (·.isDigit))
    | _ =>
      if 16 < whole.length || (whole.length == 16 && !rest.isEmpty)
          || 999999999999999 < value then none
      else some (.integer (if negative then -value else value), rest)

/-- Reads a truth value behind its question mark. -/
def readBoolean : List Char → Taken BareItem
  | '0' :: rest => some (.boolean false, rest)
  | '1' :: rest => some (.boolean true, rest)
  | _ => none

/-- Reads bytes behind their first colon. -/
def readBytes (s : List Char) : Taken BareItem :=
  let encoded := s.takeWhile (· != ':')
  match s.dropWhile (· != ':') with
  | [] => none
  | _ :: rest =>
    if encoded.all fun c => (sextet? c).isSome || c == '=' then
      (decodeBase64 encoded).toOption.map fun bytes => (.bytes bytes, rest)
    else none

/-- Reads a date behind its sign: an integer in the years 1 to 9999. -/
def readDate (s : List Char) : Taken BareItem :=
  match readNumber s with
  | some (.integer seconds, rest) =>
    if -62135510400 ≤ seconds && seconds ≤ 253402300799 then
      some (.date seconds, rest)
    else none
  | _ => none

/-- The value of a lower-case hexadecimal digit. -/
def lowerHexValue? (c : Char) : Option Nat :=
  if c.isDigit then some (c.toNat - 48)
  else if 'a' ≤ c && c ≤ 'f' then some (c.toNat - 87)
  else none

/-- Whether a character is ASCII white space. -/
def isAsciiBlank (c : Char) : Bool :=
  (0x9 ≤ c.toNat && c.toNat ≤ 0xD) || c.toNat == 0x20

/-- The byte that two characters behind a percent sign stand for: a number to
the base 16, of which one place may be white space or a sign. -/
def escapedByte? (high low : Char) : Option UInt8 :=
  match lowerHexValue? high, lowerHexValue? low with
  | some h, some l => some (UInt8.ofNat (16 * h + l))
  | some h, none => if isAsciiBlank low then some (UInt8.ofNat h) else none
  | none, some l =>
    if isAsciiBlank high || high == '+' || (high == '-' && l == 0) then
      some (UInt8.ofNat l)
    else none
  | none, none => none

/-- Reads the bytes of a display text up to the closing quotation mark. -/
def readEscaped : List Char → Taken (List UInt8)
  | [] => none
  | '"' :: rest => some ([], rest)
  | '%' :: high :: low :: rest =>
    match escapedByte? high low with
    | some b => (readEscaped rest).map fun (bs, rest) => (b :: bs, rest)
    | none => none
  | c :: rest =>
    if isVisible c && c != '%' then
      (readEscaped rest).map fun (bs, rest) => (UInt8.ofNat c.toNat :: bs, rest)
    else none

/-- Reads a display text behind its percent sign. -/
def readDisplay : List Char → Taken BareItem
  | '"' :: rest =>
    match readEscaped rest with
    | none => none
    | some (bytes, rest) =>
      match decodeUtf8 bytes with
      | .ok chars => some (.display (String.ofList chars), rest)
      | .error _ => none
  | _ => none

/-- Reads a single value, the kind of which shows in its first character. -/
def readBareItem : List Char → Taken BareItem
  | [] => none
  | c :: rest =>
    if c == '"' then
      (readQuoted rest).map fun (cs, rest) => (.text (String.ofList cs), rest)
    else if isTokenStart c then readToken (c :: rest)
    else if c.isDigit || c == '-' then readNumber (c :: rest)
    else if c == '?' then readBoolean rest
    else if c == ':' then readBytes rest
    else if c == '@' then readDate rest
    else if c == '%' then readDisplay rest
    else none

/-! ## Values take characters -/

theorem length_dropWhile_le {α : Type} (p : α → Bool) (s : List α) :
    (s.dropWhile p).length ≤ s.length :=
  (List.dropWhile_sublist p).length_le

theorem length_of_readKey {s rest : List Char} {key : String}
    (hread : readKey s = some (key, rest)) : rest.length < s.length := by
  cases s with
  | nil => simp [readKey] at hread
  | cons c tail =>
    have htail := length_dropWhile_le isKeyChar tail
    grind [readKey]

theorem length_of_readToken {s rest : List Char} {item : BareItem}
    (hread : readToken s = some (item, rest)) : rest.length < s.length := by
  cases s with
  | nil => simp [readToken] at hread
  | cons c tail =>
    have htail := length_dropWhile_le isTokenChar tail
    grind [readToken]

theorem length_of_readQuoted {s rest cs : List Char}
    (hread : readQuoted s = some (cs, rest)) : rest.length < s.length := by
  fun_induction readQuoted s generalizing cs <;>
    grind [Option.map_eq_some_iff]

theorem length_of_readEscaped {s rest : List Char} {bytes : List UInt8}
    (hread : readEscaped s = some (bytes, rest)) : rest.length < s.length := by
  fun_induction readEscaped s generalizing bytes <;>
    grind [Option.map_eq_some_iff]

theorem length_takeSign_le (s : List Char) : (takeSign s).2.length ≤ s.length := by
  fun_cases takeSign s <;> simp

theorem length_of_readNumber {s rest : List Char} {item : BareItem}
    (hread : readNumber s = some (item, rest)) : rest.length < s.length := by
  have hsign := length_takeSign_le s
  have hdigits := length_dropWhile_le (·.isDigit) (takeSign s).2
  have hsplit := congrArg List.length
    (List.takeWhile_append_dropWhile (p := (·.isDigit)) (l := (takeSign s).2))
  rw [List.length_append] at hsplit
  simp only [readNumber] at hread
  split at hread
  next => simp at hread
  next hwhole =>
    rw [Bool.not_eq_true, List.isEmpty_eq_false_iff, ← List.length_pos_iff] at hwhole
    split at hread
    next behind hrest =>
      have hbehind := length_dropWhile_le (·.isDigit) behind
      grind
    next => grind

theorem length_of_readBoolean {s rest : List Char} {item : BareItem}
    (hread : readBoolean s = some (item, rest)) : rest.length < s.length := by
  fun_cases readBoolean s <;> grind [readBoolean]

theorem length_of_readBytes {s rest : List Char} {item : BareItem}
    (hread : readBytes s = some (item, rest)) : rest.length < s.length := by
  have hdrop := length_dropWhile_le (· != ':') s
  simp only [readBytes] at hread
  split at hread
  next => simp at hread
  next c behind hbehind =>
    rw [hbehind, List.length_cons] at hdrop
    grind [Option.map_eq_some_iff]

theorem length_of_readDate {s rest : List Char} {item : BareItem}
    (hread : readDate s = some (item, rest)) : rest.length < s.length := by
  grind [readDate, → length_of_readNumber]

theorem length_of_readDisplay {s rest : List Char} {item : BareItem}
    (hread : readDisplay s = some (item, rest)) : rest.length < s.length := by
  fun_cases readDisplay s <;> grind [readDisplay, → length_of_readEscaped]

/-- A single value takes at least one character. -/
theorem length_of_readBareItem {s rest : List Char} {item : BareItem}
    (hread : readBareItem s = some (item, rest)) : rest.length < s.length := by
  cases s with
  | nil => simp [readBareItem] at hread
  | cons c tail =>
    grind [readBareItem, Option.map_eq_some_iff, → length_of_readQuoted,
      → length_of_readToken, → length_of_readNumber, → length_of_readBoolean,
      → length_of_readBytes, → length_of_readDate, → length_of_readDisplay]

end FeatureGrant.Field
