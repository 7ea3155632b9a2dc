import FeatureGrant.Command.Options
import FeatureGrant.Number.Numeral

/-!
# Invocations

What a command line asks for.  Options before the command belong to the
program, those behind it to the command.
-/

namespace FeatureGrant.Command

/-- How results are written: as a document or as text, with or without the
trace of a failure. -/
structure Format where
  json : Bool
  debug : Bool
  deriving DecidableEq, Repr

/-- The request to evaluate features against a policy that is described by a
file or by options. -/
structure CheckRequest where
  features : List String
  config : Option String
  origin : Option String
  header : String
  defaults : List String
  frameOrigin : Option String
  allow : String
  checkOrigin : Option String
  deriving DecidableEq, Repr

/-- The request to evaluate features against the policy of a page on the web;
without features, all that the policy knows. -/
structure FetchRequest where
  url : String
  features : List String
  defaults : List String
  checkOrigin : Option String
  deriving DecidableEq, Repr

/-- What is asked for. -/
inductive Invocation
  | version
  | help
  | parseHeader (value : String) (origin : Option String) (format : Format)
  | parseAllow (value : String) (origin frameOrigin : Option String) (format : Format)
  | check (request : CheckRequest) (format : Format)
  | fetch (request : FetchRequest) (format : Format)
  deriving DecidableEq, Repr

/-- An option without a value. -/
def flag (long : String) (short : Option Char) : OptionSpec where
  long
  short
  takesValue := false

/-- The option that asks for help. -/
def helpFlag : OptionSpec := flag "--help" none

/-- The options of the program. -/
def programOptions : List OptionSpec :=
  [flag "--version" (some 'V'), flag "--verbose" (some 'v'), helpFlag]

/-- Options that every command has. -/
def commonOptions : List OptionSpec := [flag "--json" none, flag "--debug" none, helpFlag]

/-- The options of the command that reads a header. -/
def parseHeaderOptions : List OptionSpec := ⟨"--origin", some 'o', true⟩ :: commonOptions

/-- The options of the command that reads an allow attribute. -/
def parseAllowOptions : List OptionSpec :=
  ⟨"--frame-origin", some 'f', true⟩ :: parseHeaderOptions

/-- The options of the command that evaluates features. -/
def checkOptions : List OptionSpec :=
  [⟨"--config", some 'c', true⟩, ⟨"--origin", some 'o', true⟩,
   ⟨"--header", some 'H', true⟩, ⟨"--default", some 'd', true⟩,
   ⟨"--frame-origin", some 'f', true⟩, ⟨"--allow", some 'a', true⟩,
   ⟨"--check-origin", none, true⟩] ++ commonOptions

/-- The options of the command that fetches a page. -/
def fetchOptions : List OptionSpec :=
  [⟨"--feature", some 'F', true⟩, ⟨"--default", some 'd', true⟩,
   ⟨"--timeout", none, true⟩, ⟨"--check-origin", none, true⟩] ++ commonOptions

/-- How the results of a command are written. -/
def Arguments.format (a : Arguments) : Format where
  json := a.has "--json"
  debug := a.has "--debug"

/-- The only operand. -/
def Arguments.single (a : Arguments) : Except UsageFault String :=
  match a.operands with
  | [] => .error .missingOperand
  | [operand] => .ok operand
  | _ :: operand :: _ => .error (.unexpectedOperand operand)

/-- What is asked of a check. -/
def Arguments.checkRequest (a : Arguments) : CheckRequest where
  features := a.operands
  config := a.value? "--config"
  origin := a.value? "--origin"
  header := (a.value? "--header").getD ""
  defaults := a.values "--default"
  frameOrigin := a.value? "--frame-origin"
  allow := (a.value? "--allow").getD ""
  checkOrigin := a.value? "--check-origin"

namespace Invocation

/-- The request to read a header. -/
def ofHeaderArguments (a : Arguments) : Except UsageFault Invocation := do
  .ok (.parseHeader (← a.single) (a.value? "--origin") a.format)

/-- The request to read an allow attribute. -/
def ofAllowArguments (a : Arguments) : Except UsageFault Invocation := do
  let value ← a.single
  let origin := a.value? "--origin"
  let frameOrigin := a.value? "--frame-origin"
  if frameOrigin.isSome && origin.isNone then .error .frameWithoutOrigin
  .ok (.parseAllow value origin frameOrigin a.format)

/-- The request to evaluate features. -/
def ofCheckArguments (a : Arguments) : Except UsageFault Invocation := do
  if a.operands.isEmpty then .error .missingOperand
  if (a.value? "--config").isNone && (a.value? "--origin").isNone then
    .error .missingOrigin
  .ok (.check a.checkRequest a.format)

/-- The request to fetch a page. -/
def ofFetchArguments (a : Arguments) : Except UsageFault Invocation := do
  let url ← a.single
  match a.value? "--timeout" with
  | some text =>
    if !Number.isDecimal text.toList then .error (.notNumber text)
  | none => pure ()
  .ok (.fetch
    { url
      features := a.values "--feature"
      defaults := a.values "--default"
      checkOrigin := a.value? "--check-origin" } a.format)

/-- Reads what stands behind the name of a command. Help is given even if
operands are missing. -/
def readCommand (specs : List OptionSpec) (make : Arguments → Except UsageFault Invocation)
    (words : List String) : Except UsageFault Invocation := do
  let a ← readArguments specs true none words
  if a.has "--help" then .ok .help else make a

/-- Reads the words of a command line. -/
def read (words : List String) : Except UsageFault Invocation := do
  let a ← readArguments programOptions false none words
  match a.options.find? fun o => o.name == "--version" || o.name == "--help" with
  | some o => .ok (if o.name == "--version" then .version else .help)
  | none =>
    match a.operands with
    | [] => .error .missingCommand
    | "parse-header" :: rest => readCommand parseHeaderOptions ofHeaderArguments rest
    | "parse-allow" :: rest => readCommand parseAllowOptions ofAllowArguments rest
    | "check" :: rest => readCommand checkOptions ofCheckArguments rest
    | "fetch" :: rest => readCommand fetchOptions ofFetchArguments rest
    | name :: _ => .error (.unknownCommand name)

end Invocation

end FeatureGrant.Command
