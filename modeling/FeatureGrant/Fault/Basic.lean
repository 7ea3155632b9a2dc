import FeatureGrant.OrderedMap
import FeatureGrant.Value

/-!
# Faults

What the library reports when it rejects an input.  A fault has details, and
from these a message, a code and perhaps a suggestion, each of which a caller
may replace; the details are repeated in its context.
-/

namespace FeatureGrant

open FeatureGrant.Text

/-- What went wrong, in detail. -/
inductive Fault
  | general
  | invalidUrl (url reason : String)
  | malformedHeader (header : String) (feature : Option String) (underlying : String)
  | missingAllowlist (header : String) (feature : Option String) (underlying : String)
  | unknownHeaderValue (header : String) (feature : Option String)
      (underlying value : String)
  | config (source : String)
  | invalidDefault (source feature value : String)
  | configLoad (source underlying : String)
  | fetch (url underlying : String)
  deriving DecidableEq, Repr

namespace Fault

/-- The kinds of a fault, the most specific one first. -/
def kinds : Fault → List String
  | general => ["PermissionsPolicyError"]
  | invalidUrl .. => ["InvalidURLError", "PermissionsPolicyError"]
  | malformedHeader .. => ["MalformedHeaderError", "PermissionsPolicyError"]
  | missingAllowlist .. =>
    ["MissingAllowlistError", "MalformedHeaderError", "PermissionsPolicyError"]
  | unknownHeaderValue .. =>
    ["UnknownHeaderValueError", "MalformedHeaderError", "PermissionsPolicyError"]
  | config .. => ["ConfigError", "PermissionsPolicyError"]
  | invalidDefault .. =>
    ["InvalidDefaultAllowlistError", "ConfigError", "PermissionsPolicyError"]
  | configLoad .. => ["ConfigLoadError", "ConfigError", "PermissionsPolicyError"]
  | fetch .. => ["FetchError", "PermissionsPolicyError"]

/-- The most specific kind of a fault. -/
def kind (f : Fault) : String := f.kinds.head?.getD ""

/-- A text, or nothing, as a value. -/
def textOrNull : Option String → Value
  | some s => .text s
  | none => .null

/-- The details of a fault by name. -/
def details : Fault → List (String × Value)
  | general => []
  | invalidUrl url reason => [("url", .text url), ("reason", .text reason)]
  | malformedHeader header feature underlying
  | missingAllowlist header feature underlying =>
    [("header_value", .text header), ("feature", textOrNull feature),
     ("underlying_error", .text underlying)]
  | unknownHeaderValue header feature underlying value =>
    [("header_value", .text header), ("feature", textOrNull feature),
     ("underlying_error", .text underlying), ("value", .text value)]
  | config source => [("source", .text source)]
  | invalidDefault source feature value =>
    [("source", .text source), ("feature", .text feature), ("value", .text value)]
  | configLoad source underlying =>
    [("source", .text source), ("underlying_error", .text underlying)]
  | fetch url underlying => [("url", .text url), ("underlying_error", .text underlying)]

/-- The code of a fault. -/
def code : Fault → Int
  | general | config .. => 0
  | invalidUrl .. => 1001
  | malformedHeader .. => 2001
  | missingAllowlist .. => 2002
  | unknownHeaderValue .. => 2003
  | invalidDefault .. => 3001
  | configLoad .. => 3002
  | fetch .. => 4001

/-- A fault in words. -/
def message : Fault → String
  | general | config .. => ""
  | invalidUrl url reason =>
    "Invalid URL " ++ quote url ++ (if reason.isEmpty then "" else ": " ++ reason)
  | malformedHeader _ _ underlying =>
    "Invalid header value: "
      ++ (if underlying.isEmpty then "invalid dictionary syntax" else underlying)
  | missingAllowlist _ feature _ =>
    "Invalid header value: allowlist part is missing for " ++ (textOrNull feature).shown
  | unknownHeaderValue _ feature _ value =>
    "Unknown value in header for " ++ (textOrNull feature).shown ++ ": " ++ value
  | invalidDefault _ feature value =>
    "Invalid default allowlist for " ++ quote feature ++ ": " ++ quote value
  | configLoad source underlying =>
    "Failed to load config " ++ source ++ ": " ++ underlying
  | fetch url underlying => "Failed to fetch " ++ url ++ ": " ++ underlying

/-- What to do about a fault. -/
def suggestion? : Fault → Option String
  | invalidUrl .. => some "Pass an absolute URL such as https://example.com"
  | missingAllowlist _ feature _ =>
    let name := (textOrNull feature).plain
    some ("Write " ++ name ++ "=() to disable the feature or " ++ name
      ++ "=* to allow it")
  | invalidDefault .. => some "Use one of: *, 'self', 'src', 'none'"
  | fetch .. => some "Check the URL and your network connection"
  | _ => none

end Fault

/-- A fault with its message, code, suggestion and context. -/
structure Report where
  fault : Fault
  message : String
  code : Int
  suggestion : Option String
  context : OrderedMap Value

namespace Report

/-- The report of a fault. A message, a code or a suggestion that is not empty
replaces the fault's own; the details are set over the given context. -/
def make (fault : Fault) (message : String) (code : Int) (suggestion : Option String)
    (context : OrderedMap Value) : Report where
  fault
  message := if message.isEmpty then fault.message else message
  code := if code = 0 then fault.code else code
  suggestion :=
    if suggestion.all (·.isEmpty) then fault.suggestion? <|> suggestion else suggestion
  context := context.merge (.ofList fault.details)

/-- The report of a fault in its own words. -/
def of (fault : Fault) : Report := make fault "" 0 none ∅

/-- A report for a reader. -/
def text (r : Report) : String :=
  "[E" ++ toString r.code ++ "] " ++ r.message
    ++ (match r.suggestion with
        | some s => if s.isEmpty then "" else "\nSuggestion: " ++ s
        | none => "")

/-- The context as a value. -/
def contextValue (r : Report) : Value :=
  .map (r.context.entries.map fun (key, value) => (.text key, value))

/-- A report with all of its fields. The most general kind of report leaves
out the suggestion. -/
def shown (r : Report) : String :=
  let field := fun (name : String) (v : Value) => name ++ "=" ++ v.shown
  let fields :=
    [field "message" (.text r.message), field "code" (.integer r.code)]
      ++ (match r.fault with
          | .general => []
          | _ => [field "suggestion" (Fault.textOrNull r.suggestion)])
      ++ [field "context" r.contextValue]
      ++ r.fault.details.map fun (name, v) => field name v
  r.fault.kind ++ "(" ++ ", ".intercalate fields ++ ")"

/-- A report as a record. -/
def record (r : Report) : List (String × Value) :=
  [("error_type", .text r.fault.kind), ("message", .text r.message),
   ("code", .integer r.code), ("suggestion", Fault.textOrNull r.suggestion),
   ("context", r.contextValue)]

end Report

end FeatureGrant
