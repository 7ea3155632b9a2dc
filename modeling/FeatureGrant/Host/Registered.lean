import FeatureGrant.Host.LetterTables
import FeatureGrant.Host.Name
import FeatureGrant.Host.RegistrationTable
import FeatureGrant.Text.LowerCase
import FeatureGrant.Text.Printable

/-!
# Registered names

Host names under the rules by which names are registered: the ASCII form in which
a name is sent, and the form in which it is shown.  Nothing is folded here: a label
either is in the form that would be registered, or the name is refused.
-/

namespace FeatureGrant.Host

open FeatureGrant.Text

/-- Letters of the Greek script. -/
def greek : Intervals where
  toList :=
    [(0x370, 0x373), (0x375, 0x377), (0x37A, 0x37D), (0x37F, 0x37F), (0x384, 0x384),
     (0x386, 0x386), (0x388, 0x3E1), (0x3F0, 0x3FF), (0x1F00, 0x1FFE)]

/-- Letters of the Hebrew script. -/
def hebrew : Intervals where
  toList := [(0x591, 0x5F4), (0xFB1D, 0xFB4F)]

/-- Letters of the scripts of Japan. -/
def japanese : Intervals where
  toList :=
    [(0x2E80, 0x2FD5), (0x3005, 0x3005), (0x3007, 0x3007), (0x3021, 0x3029),
     (0x3038, 0x303B), (0x3041, 0x3096), (0x309D, 0x309F), (0x30A1, 0x30FA),
     (0x30FD, 0x30FF), (0x31F0, 0x31FF), (0x3400, 0x4DBF), (0x4E00, 0x9FFF),
     (0xF900, 0xFAD9), (0x1B000, 0x1B167), (0x20000, 0x3134A)]

/-- The digits written with Arabic letters. -/
def arabicDigit : Intervals where
  toList := [(0x660, 0x669)]

/-- The digits written with Persian and Urdu letters. -/
def persianDigit : Intervals where
  toList := [(0x6F0, 0x6F9)]

/-- A sign that joins or separates what stands around it. -/
def isJoiner (c : Char) : Bool := c.toNat == 0x200C || c.toNat == 0x200D

/-- Why a name is refused. Places in a label are counted from one. -/
inductive NameRefusal
  | emptyName
  | nameLength
  | emptyLabel
  | labelLength
  | unstable
  | markerHyphens
  | hyphenAtEnd
  | markAtStart
  | joiner (c : Char) (place : Nat) (label : List Char)
  | context (c : Char) (place : Nat) (label : List Char)
  | character (c : Char) (place : Nat) (label : List Char)
  | firstDirection (label : List Char)
  | direction (rightToLeft : Bool) (place : Nat)
  | mixedFigures
  | directionAtEnd
  | missingCode
  | hyphenBehindCode
  | code
  deriving DecidableEq, Repr

/-! ## Characters of a label -/

/-- Whether a label may hold a character only beside certain others. -/
def isContextual (c : Char) : Bool :=
  [0xB7, 0x375, 0x5F3, 0x5F4, 0x30FB].contains c.toNat || arabicDigit.has c
    || persianDigit.has c

/-- Whether a character is a mark that is written on, or behind, another one. -/
def isMark (c : Char) : Bool := combiningClass c != 0 || classless.has c

/-- Whether a character is skipped where letters join. -/
def isSkipped (c : Char) : Bool := isMark c && !spacing.has c

/-- Whether letters join across a sign, which stands between `before`, read
backwards, and `after`. -/
def joinAcross (before after : List Char) : Bool :=
  (before.find? (!isSkipped ·)).any (fun c => joinsBoth.has c || joinsBehind.has c)
    && (after.find? (!isSkipped ·)).any fun c => joinsBoth.has c || joinsBefore.has c

/-- Whether a label may hold `c` between `before`, read backwards, and `after`. Of
upper-case letters only those of the Cherokee script are admitted. -/
def suits (before after : List Char) (c : Char) : Bool :=
  let label := before.reverse ++ c :: after
  if isAsciiChar c then c.isLower || c.isDigit || c == '-'
  else if isJoiner c then
    before.head?.any (combiningClass · == 9)
      || c.toNat == 0x200C && joinAcross before after
  else if c.toNat == 0xB7 then before.head? == some 'l' && after.head? == some 'l'
  else if c.toNat == 0x375 then after.head?.any greek.has
  else if c.toNat == 0x5F3 || c.toNat == 0x5F4 then before.head?.any hebrew.has
  else if c.toNat == 0x30FB then label.any japanese.has
  else if arabicDigit.has c then !label.any persianDigit.has
  else if persianDigit.has c then !label.any arabicDigit.has
  else if 0x13A0 ≤ c.toNat && c.toNat ≤ 0x13F5 then true
  else isPrintable c && !unregistrable.has c && lowerChar c == [c]

/-- What a label is refused for that may not hold `c` at a place. -/
def refusalOf (label : List Char) (place : Nat) (c : Char) : NameRefusal :=
  if isJoiner c then .joiner c place label
  else if isContextual c then .context c place label
  else .character c place label

/-- Checks whether a label may hold each of the characters that follow `before`,
which is read backwards. -/
def checkCharacters (before : List Char) : List Char → Except NameRefusal Unit
  | [] => .ok ()
  | c :: after =>
    if suits before after c then checkCharacters (c :: before) after
    else .error (refusalOf (before.reverse ++ c :: after) (before.length + 1) c)

/-! ## Directions in a label -/

/-- The direction in which a character runs, or what it is if it has none. -/
inductive Direction
  | left
  | right
  | arabicFigure
  | figure
  | neutral
  | mark
  deriving DecidableEq, Repr

/-- The direction of a character that a label may hold. -/
def direction (c : Char) : Direction :=
  if runsLeft.has c then .right
  else if arabicDigit.has c || 0x10D30 ≤ c.toNat && c.toNat ≤ 0x10D39 then .arabicFigure
  else if c.isDigit || persianDigit.has c then .figure
  else if neutral.has c then .neutral
  else if isMark c && !spacing.has c then .mark
  else .left

/-- Whether a label may end behind a character, if it may end before it. -/
def Direction.endsLabel (d : Direction) (before : Bool) : Bool :=
  match d with
  | mark => before
  | neutral => false
  | _ => true

/-- Checks the characters of a label that starts with a letter from right to left.
Its `figures` are of one kind. -/
def checkRightToLeft (place : Nat) (ending : Bool) (figures : Option Direction) :
    List Char → Except NameRefusal Unit
  | [] => if ending then .ok () else .error .directionAtEnd
  | c :: rest =>
    let d := direction c
    if d == .left then .error (.direction true place)
    else if d == .figure || d == .arabicFigure then
      if figures.any (· != d) then .error .mixedFigures
      else checkRightToLeft (place + 1) (d.endsLabel ending) (some d) rest
    else checkRightToLeft (place + 1) (d.endsLabel ending) figures rest

/-- Checks the characters of a label that starts with a letter from left to
right. -/
def checkLeftToRight (place : Nat) (ending : Bool) :
    List Char → Except NameRefusal Unit
  | [] => if ending then .ok () else .error .directionAtEnd
  | c :: rest =>
    let d := direction c
    if d == .right || d == .arabicFigure then .error (.direction false place)
    else checkLeftToRight (place + 1) (d.endsLabel ending) rest

/-- Checks whether a label runs in one direction. Only one with a character from
right to left is checked. -/
def checkDirections (label : List Char) : Except NameRefusal Unit :=
  if label.any fun c => direction c == .right || direction c == .arabicFigure then
    match label.head?.map direction with
    | some .right => checkRightToLeft 1 false none label
    | some .left => checkLeftToRight 1 false label
    | _ => .error (.firstDirection label)
  else .ok ()

/-! ## Labels -/

/-- Whether normalization changes a label, although it changes none of its
characters. -/
def isUnstable (label : List Char) : Bool :=
  (label.all fun c => compatibilityForm [c] == [c]) && compatibilityForm label != label

/-- Checks whether a label has the form in which it would be registered. -/
def checkLabel (label : List Char) : Except NameRefusal Unit := do
  if label.isEmpty then .error .emptyLabel
  if 254 < label.length then .error .labelLength
  if isUnstable label then .error .unstable
  if (label.drop 2).take 2 == ['-', '-'] then .error .markerHyphens
  if label.head? == some '-' || label.getLast? == some '-' then .error .hyphenAtEnd
  if label.head?.any isMark then .error .markAtStart
  checkCharacters [] label
  checkDirections label

/-- The form in which a label is shown: what stands encoded behind the marker is
decoded. -/
def shownLabel (label : List Char) : Except NameRefusal (List Char) :=
  if isAscii label then
    let label := label.map Char.toLower
    if ['x', 'n', '-', '-'].isPrefixOf label then
      let code := label.drop 4
      if code.isEmpty then .error .missingCode
      else if code.getLast? == some '-' then .error .hyphenBehindCode
      else
        match Punycode.decode? code with
        | none => .error .code
        | some shown => (checkLabel shown).map fun _ => shown
    else (checkLabel label).map fun _ => label
  else (checkLabel label).map fun _ => label

/-- The form in which a label is sent. -/
def registeredLabel (label : List Char) : Except NameRefusal (List Char) := do
  let _ ← shownLabel label
  let encoded :=
    if isAscii label then label else ['x', 'n', '-', '-'] ++ Punycode.encode label
  if encoded.length < 64 then .ok encoded else .error .labelLength

/-! ## Names -/

/-- Reads a name label by label. A full stop at its end is kept. -/
def eachLabel (read : List Char → Except NameRefusal (List Char)) (name : List Char) :
    Except NameRefusal (List Char) := do
  if 254 < name.length then .error .nameLength
  if name.isEmpty then .error .emptyName
  let labels := name.splitOnP isDot
  let rooted := labels.getLast?.any (·.isEmpty)
  let read ← (if rooted then labels.dropLast else labels).mapM read
  .ok (['.'].intercalate read ++ (if rooted then ['.'] else []))

/-- The form in which a name is shown. -/
def shownName (name : List Char) : Except NameRefusal (List Char) :=
  eachLabel shownLabel name

/-- The form in which a name is sent, after upper-case letters have been
replaced. -/
def registeredName (name : List Char) : Except NameRefusal (List Char) := do
  let sent ← eachLabel registeredLabel (lower name)
  let limit := if sent.getLast? == some '.' then 254 else 253
  if sent.length ≤ limit then .ok sent else .error .nameLength

/-! ## Refusals in words -/

/-- A code point by its number, in at least four digits. -/
def codePoint (c : Char) : String :=
  let digits := (Nat.toDigits 16 c.toNat).map Char.toUpper
  String.ofList (['U', '+'] ++ List.replicate (4 - digits.length) '0' ++ digits)

/-- The kind of a refusal. -/
def NameRefusal.kind : NameRefusal → String
  | context .. => "InvalidCodepointContext"
  | character .. => "InvalidCodepoint"
  | firstDirection _ | direction .. | mixedFigures | directionAtEnd => "IDNABidiError"
  | _ => "IDNAError"

/-- The refusal in words. -/
def NameRefusal.message : NameRefusal → String
  | emptyName => "Empty domain"
  | nameLength => "Domain too long"
  | emptyLabel => "Empty Label"
  | labelLength => "Label too long"
  | unstable => "Label must be in Normalization Form C"
  | markerHyphens => "Label has disallowed hyphens in 3rd and 4th position"
  | hyphenAtEnd => "Label must not start or end with a hyphen"
  | markAtStart => "Label begins with an illegal combining character"
  | joiner c place label =>
    "Unknown codepoint adjacent to joiner " ++ codePoint c ++ " at position "
      ++ toString place ++ " in " ++ quote (String.ofList label)
  | context c place label =>
    "Codepoint " ++ codePoint c ++ " not allowed at position " ++ toString place
      ++ " in " ++ quote (String.ofList label)
  | character c place label =>
    "Codepoint " ++ codePoint c ++ " at position " ++ toString place ++ " of "
      ++ quote (String.ofList label) ++ " not allowed"
  | firstDirection label =>
    "First codepoint in label " ++ quote (String.ofList label)
      ++ " must be directionality L, R or AL"
  | direction rightToLeft place =>
    "Invalid direction for codepoint at position " ++ toString place ++ " in a "
      ++ (if rightToLeft then "right-to-left" else "left-to-right") ++ " label"
  | mixedFigures => "Can not mix numeral types in a right-to-left label"
  | directionAtEnd => "Label ends with illegal codepoint directionality"
  | missingCode => "Malformed A-label, no Punycode eligible content found"
  | hyphenBehindCode => "A-label must not end with a hyphen"
  | code => "Invalid A-label"

end FeatureGrant.Host
