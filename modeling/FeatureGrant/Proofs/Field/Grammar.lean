import FeatureGrant.Field.Dictionary

/-!
# How dictionaries are written

The grammar of structured fields, as relations between a text, the value that is
written in front of it and the rest behind the value.  The rules are those of
RFC 8941, with or without dates and display texts besides.  Readers are laxer about
numbers: a decimal number may end in its point, and at the end of a field an integer
or a date may have a sixteenth digit, behind a zero.  What they let pass in the
escapes of display texts is part of the rules for those.
-/

namespace FeatureGrant.Field

open FeatureGrant.Text

/-- The rules for single values: those of RFC 8941 alone, the same with dates and
display texts, or those that readers follow, which are laxer about numbers. -/
inductive Rules
  | plain
  | standard
  | lax
  deriving DecidableEq, Repr

/-! ## Parts of single values -/

/-- The sign of a number. -/
def signChars (negative : Bool) : List Char := if negative then ['-'] else []

/-- The number that digits stand for. -/
def number (digits : List Char) : Nat := Nat.ofDigitChars 10 digits 0

/-- One or more digits. -/
structure IsDigits (digits : List Char) : Prop where
  ne_nil : digits ≠ []
  all : ∀ c ∈ digits, c.isDigit = true

/-- Whether so many digits may stand for an integer in front of `rest`. -/
def FitsInteger (rules : Rules) (digits rest : List Char) : Prop :=
  digits.length ≤ 15 ∨
    rules = .lax ∧ rest = [] ∧ digits.length = 16 ∧ digits.head? = some '0'

/-- A character of a text in quotation marks, behind a backslash if it is a
backslash or a quotation mark itself. -/
def quotedChars (c : Char) : List Char :=
  if c = '"' ∨ c = '\\' then ['\\', c] else [c]

/-- Whether a character may stand between the colons around bytes. -/
def IsBase64Char (c : Char) : Prop := (sextet? c).isSome = true ∨ c = '='

instance (c : Char) : Decidable (IsBase64Char c) :=
  inferInstanceAs (Decidable (_ ∨ _))

/-- Bytes as they are written in a display text, up to the closing quotation
mark. Two characters stand for a byte as readers take them: white space or a sign
may stand in the place of one of the two digits. -/
inductive IsEscaped : List Char → List UInt8 → List Char → Prop
  | close {rest : List Char} : IsEscaped ('"' :: rest) [] rest
  | escaped {high low : Char} {b : UInt8} {s rest : List Char}
      {bytes : List UInt8} (hb : escapedByte? high low = some b)
      (hs : IsEscaped s bytes rest) :
      IsEscaped ('%' :: high :: low :: s) (b :: bytes) rest
  | plain {c : Char} {s rest : List Char} {bytes : List UInt8}
      (hvisible : isVisible c = true) (hpercent : c ≠ '%') (hquote : c ≠ '"')
      (hs : IsEscaped s bytes rest) :
      IsEscaped (c :: s) (UInt8.ofNat c.toNat :: bytes) rest

/-! ## Values -/

/-- A single value in front of `rest`. -/
inductive IsBareItem (rules : Rules) :
    List Char → BareItem → List Char → Prop
  | integer {negative : Bool} {digits rest : List Char}
      (hdigits : IsDigits digits) (hfits : FitsInteger rules digits rest) :
      IsBareItem rules (signChars negative ++ (digits ++ rest))
        (.integer (if negative then -number digits else number digits)) rest
  | decimal {negative : Bool} {whole fraction rest : List Char}
      (hwhole : IsDigits whole) (hlength : whole.length ≤ 12)
      (hfraction : ∀ c ∈ fraction, c.isDigit = true)
      (hshort : fraction.length ≤ 3) (hpoint : fraction ≠ [] ∨ rules = .lax) :
      IsBareItem rules
        (signChars negative ++ (whole ++ '.' :: (fraction ++ rest)))
        (.decimal ⟨negative, number whole, fraction⟩) rest
  | text {cs rest : List Char} (hcs : ∀ c ∈ cs, isVisible c = true) :
      IsBareItem rules ('"' :: (cs.flatMap quotedChars ++ '"' :: rest))
        (.text (String.ofList cs)) rest
  | token {c : Char} {cs rest : List Char} (hc : isTokenStart c = true)
      (hcs : ∀ d ∈ cs, isTokenChar d = true) :
      IsBareItem rules (c :: (cs ++ rest)) (.token (String.ofList (c :: cs))) rest
  | bytes {encoded rest : List Char} {bytes : List UInt8}
      (hencoded : ∀ c ∈ encoded, IsBase64Char c)
      (hbytes : decodeBase64 encoded = .ok bytes) :
      IsBareItem rules (':' :: (encoded ++ ':' :: rest)) (.bytes bytes) rest
  | boolean (value : Bool) {rest : List Char} :
      IsBareItem rules ('?' :: (if value then '1' else '0') :: rest)
        (.boolean value) rest
  | date {s rest : List Char} {seconds : Int} (hrules : rules ≠ .plain)
      (hs : IsBareItem rules s (.integer seconds) rest)
      (hfirst : -62135510400 ≤ seconds) (hlast : seconds ≤ 253402300799) :
      IsBareItem rules ('@' :: s) (.date seconds) rest
  | display {s rest chars : List Char} {bytes : List UInt8}
      (hrules : rules ≠ .plain) (hs : IsEscaped s bytes rest)
      (hchars : decodeUtf8 bytes = .ok chars) :
      IsBareItem rules ('%' :: '"' :: s) (.display (String.ofList chars)) rest

/-- A key in front of `rest`. -/
inductive IsKeyed : List Char → String → List Char → Prop
  | key {c : Char} {cs rest : List Char} (hc : isKeyStart c = true)
      (hcs : ∀ d ∈ cs, isKeyChar d = true) :
      IsKeyed (c :: (cs ++ rest)) (String.ofList (c :: cs)) rest

/-- Nothing but spaces. -/
def AreSpaces (s : List Char) : Prop := ∀ c ∈ s, c = ' '

/-- Nothing but spaces and tabs. -/
def AreBlanks (s : List Char) : Prop := ∀ c ∈ s, c = ' ' ∨ c = '\t'

/-- Any number of parameters in front of `rest`, each behind a semicolon and
with or without a value. -/
inductive AreParameters (rules : Rules) : List Char → List Char → Prop
  | none {rest : List Char} : AreParameters rules rest rest
  | flag {spaces s t rest : List Char} {key : String}
      (hspaces : AreSpaces spaces) (hkey : IsKeyed s key t)
      (ht : AreParameters rules t rest) :
      AreParameters rules (';' :: (spaces ++ s)) rest
  | valued {spaces s t u rest : List Char} {key : String} {item : BareItem}
      (hspaces : AreSpaces spaces) (hkey : IsKeyed s key ('=' :: t))
      (hitem : IsBareItem rules t item u) (hu : AreParameters rules u rest) :
      AreParameters rules (';' :: (spaces ++ s)) rest

/-- A single value with its parameters in front of `rest`. -/
def IsItem (rules : Rules) (s : List Char) (item : BareItem)
    (rest : List Char) : Prop :=
  ∃ t, IsBareItem rules s item t ∧ AreParameters rules t rest

/-- The items of an inner list up to its closing parenthesis, behind which
`rest` follows. -/
inductive AreItems (rules : Rules) :
    List Char → List BareItem → List Char → Prop
  | close {spaces rest : List Char} (hspaces : AreSpaces spaces) :
      AreItems rules (spaces ++ ')' :: rest) [] rest
  | item {spaces s t rest : List Char} {item : BareItem}
      {items : List BareItem} (hspaces : AreSpaces spaces)
      (hitem : IsItem rules s item t)
      (hend : t.head? = some ' ' ∨ t.head? = some ')')
      (ht : AreItems rules t items rest) :
      AreItems rules (spaces ++ s) (item :: items) rest

/-- What stands behind a key in front of `rest`. -/
inductive IsMember (rules : Rules) : List Char → Member → List Char → Prop
  | flag {s rest : List Char} (hs : AreParameters rules s rest) :
      IsMember rules s (.item (.boolean true)) rest
  | item {s rest : List Char} {item : BareItem}
      (hs : IsItem rules s item rest) :
      IsMember rules ('=' :: s) (.item item) rest
  | innerList {s t rest : List Char} {items : List BareItem}
      (hs : AreItems rules s items t) (ht : AreParameters rules t rest) :
      IsMember rules ('=' :: '(' :: s) (.innerList items) rest

/-- The members of a dictionary, with commas between them. -/
inductive AreMembers (rules : Rules) :
    List Char → List (String × Member) → Prop
  | last {s t blanks : List Char} {key : String} {member : Member}
      (hkey : IsKeyed s key t) (hmember : IsMember rules t member blanks)
      (hblanks : AreBlanks blanks) :
      AreMembers rules s [(key, member)]
  | comma {s t u blanks blanks' : List Char} {key : String} {member : Member}
      {members : List (String × Member)} (hkey : IsKeyed s key t)
      (hmember : IsMember rules t member (blanks ++ ',' :: (blanks' ++ u)))
      (hblanks : AreBlanks blanks) (hblanks' : AreBlanks blanks')
      (hu : AreMembers rules u members) :
      AreMembers rules s ((key, member) :: members)

/-- A dictionary with its members, repeated keys included. -/
def IsDictionary (rules : Rules) (s : List Char)
    (members : List (String × Member)) : Prop :=
  ∃ spaces t, s = spaces ++ t ∧ AreSpaces spaces ∧ AreMembers rules t members

/-! ## Numbers of the standard -/

/-- A decimal number that ends in its point. -/
def BareItem.IsPointed : BareItem → Prop
  | .decimal value => value.fraction = []
  | _ => False

theorem not_isPointed_of_isBareItem {s rest : List Char} {item : BareItem}
    (hitem : IsBareItem .standard s item rest) : ¬item.IsPointed := by
  cases hitem with
  | decimal _ _ _ _ hpoint => exact hpoint.resolve_right nofun
  | _ => exact id

theorem not_isPointed_of_areItems {s rest : List Char} {items : List BareItem}
    (hitems : AreItems .standard s items rest) :
    ∀ item ∈ items, ¬item.IsPointed := by
  induction hitems with
  | close => exact List.forall_mem_nil _
  | item _ hitem _ _ ih =>
      obtain ⟨t, hbare, -⟩ := hitem
      exact List.forall_mem_cons.mpr ⟨not_isPointed_of_isBareItem hbare, ih⟩

theorem not_isPointed_of_isMember {s rest : List Char} {member : Member}
    (hmember : IsMember .standard s member rest) :
    ∀ item ∈ member.items, ¬item.IsPointed := by
  cases hmember with
  | flag =>
      intro item hitem
      obtain rfl := List.mem_singleton.mp hitem
      exact id
  | item hs =>
      obtain ⟨t, hbare, -⟩ := hs
      intro item hitem
      obtain rfl := List.mem_singleton.mp hitem
      exact not_isPointed_of_isBareItem hbare
  | innerList hs => exact not_isPointed_of_areItems hs

/-- By the rules of the standard no decimal number in a dictionary ends in its
point. -/
theorem not_isPointed_of_isDictionary {s : List Char}
    {members : List (String × Member)}
    (hs : IsDictionary .standard s members) :
    ∀ entry ∈ members, ∀ item ∈ entry.2.items, ¬item.IsPointed := by
  obtain ⟨spaces, t, -, -, hmembers⟩ := hs
  induction hmembers with
  | last _ hmember =>
      intro entry hentry
      obtain rfl := List.mem_singleton.mp hentry
      exact not_isPointed_of_isMember hmember
  | comma _ hmember _ _ _ ih =>
      exact List.forall_mem_cons.mpr ⟨not_isPointed_of_isMember hmember, ih⟩

end FeatureGrant.Field
