import FeatureGrant.Yaml.Token.Property

/-!
# YAML tags

What a node is.  A plain scalar without a tag shows it by its form: the words
for truth values and for nothing, integers to four bases and in sixties,
decimal numbers, dates and times.
-/

namespace FeatureGrant.Yaml

/-- What a node is. -/
inductive Tag
  | null
  | bool
  | int
  | float
  | binary
  | timestamp
  | omap
  | pairs
  | set
  | str
  | seq
  | map
  | merge
  | value
  | other
  deriving DecidableEq, Repr

/-- What the tags of the language itself start with. -/
def languageTag : String := "tag:yaml.org,2002:"

/-- The tag with a full name. -/
def Tag.ofName (name : String) : Tag :=
  let known : List (String × Tag) :=
    [("null", .null), ("bool", .bool), ("int", .int), ("float", .float),
     ("binary", .binary), ("timestamp", .timestamp), ("omap", .omap), ("pairs", .pairs),
     ("set", .set), ("str", .str), ("seq", .seq), ("map", .map), ("merge", .merge),
     ("value", .value)]
  ((known.map fun (short, tag) => (languageTag ++ short, tag)).lookup name).getD .other

/-- Takes a sign off the front. -/
def dropSign : List Char → List Char
  | '+' :: rest | '-' :: rest => rest
  | s => s

/-- Whether a character is a digit or an underscore. -/
def isDigitOr_ (c : Char) : Bool := c.isDigit || c == '_'

/-- One or more numbers below sixty, each behind a colon. -/
def isSixties (s : List Char) : Bool :=
  match s.splitOn ':' with
  | [] :: groups@(_ :: _) =>
    groups.all fun g =>
      match g with
      | [a] => a.isDigit
      | [a, b] => '0' ≤ a && a ≤ '5' && b.isDigit
      | _ => false
  | _ => false

/-- The form of an integer. -/
def isIntForm (s : List Char) : Bool :=
  match dropSign s with
  | ['0'] => true
  | '0' :: 'b' :: rest =>
    !rest.isEmpty && rest.all fun c => c == '0' || c == '1' || c == '_'
  | '0' :: 'x' :: rest => !rest.isEmpty && rest.all fun c => isHex c || c == '_'
  | '0' :: rest => rest.all fun c => ('0' ≤ c && c ≤ '7') || c == '_'
  | c :: rest =>
    let tail := rest.dropWhile isDigitOr_
    c.isDigit && (tail.isEmpty || isSixties tail)
  | [] => false

/-- The form of an exponent, which may be missing. -/
def isExponentForm : List Char → Bool
  | [] => true
  | e :: sign :: digits =>
    (e == 'e' || e == 'E') && (sign == '+' || sign == '-') && !digits.isEmpty
      && digits.all (·.isDigit)
  | _ => false

/-- The form of a number with a point in it. -/
def isPointForm (s : List Char) : Bool :=
  match s with
  | [] => false
  | c :: rest =>
    let tail := rest.dropWhile isDigitOr_
    c.isDigit
      && match tail with
        | '.' :: behind => isExponentForm (behind.dropWhile isDigitOr_)
        | ':' :: _ =>
          isSixties (tail.takeWhile (· != '.'))
            && (match tail.dropWhile (· != '.') with
                | '.' :: behind => behind.all isDigitOr_
                | _ => false)
        | _ => false

/-- The form of a floating-point number. -/
def isFloatForm (s : List Char) : Bool :=
  [".inf".toList, ".Inf".toList, ".INF".toList].contains (dropSign s)
    || [".nan".toList, ".NaN".toList, ".NAN".toList].contains s
    || isPointForm (dropSign s)
    || match s with
      | '.' :: c :: rest => c.isDigit && isExponentForm (rest.dropWhile isDigitOr_)
      | _ => false

/-- A date or a time as it is written, digit by digit. -/
structure Timestamp where
  year : List Char
  month : List Char
  day : List Char
  time : Option (List Char × List Char × List Char × List Char)
  zone : Option (Option (Char × List Char × List Char))
  deriving DecidableEq, Repr

/-- Takes `least` to `most` digits off the front. -/
def takeDigits? (least most : Nat) (s : List Char) : Option (List Char × List Char) :=
  let digits := (s.take most).takeWhile (·.isDigit)
  if digits.length < least then none else some (digits, s.drop digits.length)

/-- Takes a character off the front. -/
def takeChar? (c : Char) : List Char → Option (List Char)
  | d :: rest => if c == d then some rest else none
  | [] => none

/-- Reads a time zone at the end of a text, if there is one. -/
def readZone? (s : List Char) : Option (Option (Option (Char × List Char × List Char))) :=
  match s.dropWhile fun c => c == ' ' || c == '\t' with
  | [] => if s.isEmpty then some none else none
  | ['Z'] => some (some none)
  | sign :: rest => do
    if sign != '+' && sign != '-' then none
    let (hour, rest) ← takeDigits? 1 2 rest
    match rest with
    | [] => some (some (some (sign, hour, [])))
    | ':' :: rest => do
      let (minute, rest) ← takeDigits? 2 2 rest
      if rest.isEmpty then some (some (some (sign, hour, minute))) else none
    | _ => none

/-- Takes what stands between a date and a time off the front. -/
def takeDateEnd? : List Char → Option (List Char)
  | 'T' :: rest | 't' :: rest => some rest
  | ' ' :: rest | '\t' :: rest =>
    some (rest.dropWhile fun c => c == ' ' || c == '\t')
  | _ => none

/-- Reads a date, or a date and a time. -/
def readTimestamp? (s : List Char) : Option Timestamp := do
  let (year, rest) ← takeDigits? 4 4 s
  let rest ← takeChar? '-' rest
  let (month, rest) ← takeDigits? 1 2 rest
  let rest ← takeChar? '-' rest
  let (day, rest) ← takeDigits? 1 2 rest
  if rest.isEmpty then some { year, month, day, time := none, zone := none }
  else
    let rest ← takeDateEnd? rest
    let (hour, rest) ← takeDigits? 1 2 rest
    let rest ← takeChar? ':' rest
    let (minute, rest) ← takeDigits? 2 2 rest
    let rest ← takeChar? ':' rest
    let (second, rest) ← takeDigits? 2 2 rest
    let (fraction, rest) := match rest with
      | '.' :: rest => (rest.takeWhile (·.isDigit), rest.dropWhile (·.isDigit))
      | rest => ([], rest)
    let zone ← readZone? rest
    some { year, month, day, time := some (hour, minute, second, fraction), zone }

/-- The form of a date or a time. A date alone has two digits for the month
and the day. -/
def isTimestampForm (s : List Char) : Bool :=
  match readTimestamp? s with
  | some t => t.time.isSome || (t.month.length == 2 && t.day.length == 2)
  | none => false

/-- The words for truth values. -/
def boolWords : List String :=
  ["yes", "Yes", "YES", "no", "No", "NO", "true", "True", "TRUE", "false", "False",
   "FALSE", "on", "On", "ON", "off", "Off", "OFF"]

/-- What a plain scalar without a tag is. -/
def Tag.ofPlain (s : List Char) : Tag :=
  let word := String.ofList s
  if boolWords.contains word then .bool
  else if isFloatForm s then .float
  else if isIntForm s then .int
  else if word == "<<" then .merge
  else if ["", "~", "null", "Null", "NULL"].contains word then .null
  else if isTimestampForm s then .timestamp
  else if word == "=" then .value
  else if ["!", "&", "*"].contains word then .other
  else .str

end FeatureGrant.Yaml
