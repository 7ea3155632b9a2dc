import FeatureGrant.Number.CivilDate
import FeatureGrant.Text.Quoted

/-!
# Structured field values

The values that a structured field can hold: numbers, texts, tokens, bytes,
truth values, dates and display texts, alone or in an inner list.
-/

namespace FeatureGrant.Field

open FeatureGrant.Number FeatureGrant.Text

/-- A decimal number as it is written, but for leading zeros. -/
structure Decimal where
  negative : Bool
  whole : Nat
  fraction : List Char
  deriving DecidableEq, Repr

/-- A single value. -/
inductive BareItem
  | integer (value : Int)
  | decimal (value : Decimal)
  | text (value : String)
  | token (value : String)
  | bytes (value : List UInt8)
  | boolean (value : Bool)
  | date (seconds : Int)
  | display (value : String)
  deriving DecidableEq, Repr

/-- What a key of a dictionary stands for: one item, or several in
parentheses. -/
inductive Member
  | item (value : BareItem)
  | innerList (values : List BareItem)
  deriving DecidableEq, Repr

/-- The items of a member. -/
def Member.items : Member → List BareItem
  | item value => [value]
  | innerList values => values

/-- The characters of a token or of a text; other items are not text. -/
def BareItem.text? : BareItem → Option String
  | text value | token value => some value
  | _ => none

/-- A decimal number with its fraction digits. -/
def Decimal.digits (d : Decimal) : String :=
  (if d.negative then "-" else "") ++ toString d.whole
    ++ (if d.fraction.isEmpty then "" else "." ++ String.ofList d.fraction)

/-- An item as it is shown in messages. -/
def BareItem.shown : BareItem → String
  | integer value => toString value
  | decimal value => "Decimal('" ++ value.digits ++ "')"
  | text value | token value | display value => quote value
  | bytes value => quoteBytes value
  | boolean value => if value then "True" else "False"
  | date seconds => (CivilTime.ofSeconds seconds).text

end FeatureGrant.Field
