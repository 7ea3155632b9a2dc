import FeatureGrant.Value

/-!
# Violations

What data violates of the shape that is asked for: where, and how.  Checks of
separate parts are combined so that all of their violations are listed, in the
order of the parts.
-/

namespace FeatureGrant.Schema

open FeatureGrant.Text

/-- A step on the way to a part: a name or a number. -/
inductive Step
  | name (text : String)
  | index (n : Int)
  deriving DecidableEq, Repr

/-- What is wrong with a part. -/
inductive Flaw
  | notRecord (model : String)
  | missing
  | extra
  | keyNotText
  | notText
  | undecodableText
  | emptyText
  | notMap
  | notSet
  | notOneOf (choices : String)
  | notFlag
  | unclearFlag
  | notInteger
  | unreadableInteger
  | longInteger
  | fractionalInteger
  | notFinite
  | listedOrigins (kind : String)
  | unresolvedKeyword (feature : String)
  | frozen
  deriving DecidableEq, Repr

/-- A flaw and the way to the part that has it. -/
structure Violation where
  path : List Step
  flaw : Flaw
  deriving DecidableEq, Repr

/-- The name of a flaw. -/
def Flaw.name : Flaw → String
  | notRecord _ => "model_type"
  | missing => "missing"
  | extra => "extra_forbidden"
  | keyNotText => "invalid_key"
  | notText => "string_type"
  | undecodableText => "string_unicode"
  | emptyText => "string_too_short"
  | notMap => "dict_type"
  | notSet => "frozen_set_type"
  | notOneOf _ => "enum"
  | notFlag => "bool_type"
  | unclearFlag => "bool_parsing"
  | notInteger => "int_type"
  | unreadableInteger => "int_parsing"
  | longInteger => "int_parsing_size"
  | fractionalInteger => "int_from_float"
  | notFinite => "finite_number"
  | listedOrigins _ | unresolvedKeyword _ => "value_error"
  | frozen => "frozen_instance"

/-- A flaw in words. -/
def Flaw.message : Flaw → String
  | notRecord model => "Input should be a valid dictionary or instance of " ++ model
  | missing => "Field required"
  | extra => "Extra inputs are not permitted"
  | keyNotText => "Keys should be strings"
  | notText => "Input should be a valid string"
  | undecodableText =>
    "Input should be a valid string, unable to parse raw data as a unicode string"
  | emptyText => "String should have at least 1 character"
  | notMap => "Input should be a valid dictionary"
  | notSet => "Input should be a valid frozenset"
  | notOneOf choices => "Input should be " ++ choices
  | notFlag => "Input should be a valid boolean"
  | unclearFlag => "Input should be a valid boolean, unable to interpret input"
  | notInteger => "Input should be a valid integer"
  | unreadableInteger =>
    "Input should be a valid integer, unable to parse string as an integer"
  | longInteger =>
    "Unable to parse input string as an integer, exceeded maximum size"
  | fractionalInteger =>
    "Input should be a valid integer, got a number with a fractional part"
  | notFinite => "Input should be a finite number"
  | listedOrigins kind =>
    "Value error, " ++ quote kind ++ " allowlist cannot list origins"
  | unresolvedKeyword feature =>
    "Value error, Unresolved keyword in normalized allowlist for " ++ quote feature
  | frozen => "Instance is frozen"

/-- A part that was checked: what it is, or what it violates. -/
abbrev Checked (α : Type) := Except (List Violation) α

/-- A part with one flaw. -/
def flawed {α : Type} (flaw : Flaw) : Checked α := .error [{ path := [], flaw }]

/-- Two parts with the violations of both. -/
def both {α β : Type} : Checked α → Checked β → Checked (α × β)
  | .ok a, .ok b => .ok (a, b)
  | .error first, .ok _ => .error first
  | .ok _, .error second => .error second
  | .error first, .error second => .error (first ++ second)

/-- All parts of a list with the violations of all. -/
def sequence {α : Type} : List (Checked α) → Checked (List α)
  | [] => .ok []
  | part :: rest => (both part (sequence rest)).map fun (a, as) => a :: as

/-- Violations of a part that is one step away. -/
def behind (step : Step) (violations : List Violation) : List Violation :=
  violations.map fun v => { v with path := step :: v.path }

/-- A part that is one step away. -/
def atStep {α : Type} (step : Step) (part : Checked α) : Checked α :=
  part.mapError (behind step)

/-- A part of a larger one, under a name. -/
def under {α : Type} (name : String) (part : Checked α) : Checked α :=
  atStep (.name name) part

/-- The step to the value of a key. Truth values count as numbers; what is
neither number nor text is named as it is shown. -/
def keyStep : Value → Step
  | .text s => .name s
  | .integer n => .index n
  | .boolean b => .index (if b then 1 else 0)
  | key => .name key.shown

end FeatureGrant.Schema
