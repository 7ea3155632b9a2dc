import FeatureGrant.Number.Binary64
import FeatureGrant.Number.CivilDate
import FeatureGrant.Text.Quoted

/-!
# Data values

Values of any shape, as they come from a document or from a caller, and how
they are shown in messages.  A map is listed in the order of its entries.
-/

namespace FeatureGrant

open FeatureGrant.Number FeatureGrant.Text

/-- A value. An object is a record that is held elsewhere, by its number and
the way it is shown. -/
inductive Value
  | null
  | boolean (value : Bool)
  | integer (value : Int)
  | real (value : Binary64)
  | text (value : String)
  | bytes (value : List UInt8)
  | date (value : CivilDate)
  | time (value : CivilTime) (offset : Option Int)
  | list (items : List Value)
  | pair (first second : Value)
  | set (members : List Value)
  | map (entries : List (Value × Value))
  | object (number : Nat) (label : String)
  deriving Inhabited

/-- The difference of a time zone to universal time, in minutes, as it is
shown in messages. -/
def offsetText (minutes : Int) : String :=
  if minutes == 0 then "datetime.timezone.utc"
  else
    let seconds := minutes * 60
    let days := seconds / 86400
    "datetime.timezone(datetime.timedelta("
      ++ (if days == 0 then "" else "days=" ++ toString days ++ ", ")
      ++ "seconds=" ++ toString (seconds % 86400) ++ "))"

namespace Value

mutual

/-- A value as it is shown in messages. -/
def shown : Value → String
  | null => "None"
  | boolean b => if b then "True" else "False"
  | integer n => toString n
  | real x => x.text
  | text s => quote s
  | bytes b => quoteBytes b
  | date d => d.text
  | time t none => t.text
  | time t (some offset) =>
    "datetime.datetime(" ++ t.fields ++ ", tzinfo=" ++ offsetText offset ++ ")"
  | list items => "[" ++ ", ".intercalate (shownAll items) ++ "]"
  | pair first second => "(" ++ first.shown ++ ", " ++ second.shown ++ ")"
  | set [] => "set()"
  | set members => "\x7b" ++ ", ".intercalate (shownAll members) ++ "\x7d"
  | map entries => "\x7b" ++ ", ".intercalate (shownEntries entries) ++ "\x7d"
  | object _ label => label

/-- Values as they are shown in messages. -/
def shownAll : List Value → List String
  | [] => []
  | v :: rest => v.shown :: shownAll rest

/-- The entries of a map as they are shown in messages. -/
def shownEntries : List (Value × Value) → List String
  | [] => []
  | (key, value) :: rest => (key.shown ++ ": " ++ value.shown) :: shownEntries rest

end

/-- A value as text: a text itself, another value as it is shown. -/
def plain : Value → String
  | text s => s
  | v => v.shown

/-- Whether a value counts as false: nothing, zero or an empty container. -/
def isFalsy : Value → Bool
  | null | boolean false | integer 0 | real (.finite _ 0 _) | text "" | bytes []
  | list [] | set [] | map [] => true
  | _ => false

/-- The number that a value is; truth values count as one and zero. -/
def number? : Value → Option Int
  | boolean b => some (if b then 1 else 0)
  | integer n => some n
  | real x => x.toInt?
  | _ => none

/-- Whether two floating-point numbers are equal; the two zeros are. -/
def sameReal (x y : Binary64) : Bool :=
  match x.toInt?, y.toInt? with
  | some m, some n => m == n
  | none, none => x != .nan && x == y
  | _, _ => false

/-- Whether two scalars are equal. Truth values and numbers are compared as
numbers, times with an offset by their moment. -/
def sameScalar (v w : Value) : Bool :=
  match v, w with
  | null, null => true
  | real x, real y => sameReal x y
  | text a, text b => a == b
  | bytes a, bytes b => a == b
  | date a, date b => a == b
  | time a none, time b none => a == b
  | time a (some m), time b (some n) =>
    a.toSeconds - 60 * m == b.toSeconds - 60 * n && a.microsecond == b.microsecond
  | object m _, object n _ => m == n
  | v, w =>
    match v.number?, w.number? with
    | some m, some n => m == n
    | _, _ => false

mutual

/-- Whether two values are equal; the order of the entries of a map does not
matter. -/
def same : Value → Value → Bool
  | list a, list b => sameAll a b
  | pair a b, pair c d => a.same c && b.same d
  | set a, set b => a.length == b.length && sameMembers a b
  | map a, map b => a.length == b.length && sameEntries a b
  | v, w => sameScalar v w

/-- Whether the items of two lists are equal one by one. -/
def sameAll : List Value → List Value → Bool
  | [], [] => true
  | v :: vs, w :: ws => v.same w && sameAll vs ws
  | _, _ => false

/-- Whether every member of a list has an equal one in another. -/
def sameMembers : List Value → List Value → Bool
  | [], _ => true
  | v :: vs, ws => (ws.any fun w => v.same w) && sameMembers vs ws

/-- Whether every entry of a map has an equal one in another. -/
def sameEntries : List (Value × Value) → List (Value × Value) → Bool
  | [], _ => true
  | (key, value) :: rest, entries =>
    (entries.any fun entry => key.same entry.1 && value.same entry.2)
      && sameEntries rest entries

end

end Value

end FeatureGrant
