/-!
# Options

Splits the words of a command line into options and operands.  The value of an
option may be the next word, or stand behind an equals sign after a long name,
or directly behind a short one; short names may be joined, and two dashes end
the options.
-/

namespace FeatureGrant.Command

/-- An option: its long name, its short name and whether it has a value. -/
structure OptionSpec where
  long : String
  short : Option Char := none
  takesValue : Bool := true
  deriving DecidableEq, Repr

/-- An option that was given, by its long name, with its value. -/
structure GivenOption where
  name : String
  value : String
  deriving DecidableEq, Repr

/-- What a command was given, in order. -/
structure Arguments where
  options : List GivenOption
  operands : List String
  deriving DecidableEq, Repr

/-- Why the words make no sense. -/
inductive UsageFault
  | unknownOption (name : String)
  | missingValue (name : String)
  | unexpectedValue (name : String)
  | missingCommand
  | unknownCommand (name : String)
  | missingOperand
  | unexpectedOperand (operand : String)
  | notNumber (text : String)
  | noFile (path : String)
  | missingOrigin
  | frameWithoutOrigin
  | notAssignment (text : String)
  deriving DecidableEq, Repr

/-- The fault in words. -/
def UsageFault.message : UsageFault → String
  | .unknownOption name => "No such option: " ++ name
  | .missingValue name => "Option " ++ name ++ " requires an argument"
  | .unexpectedValue name => "Option " ++ name ++ " does not take a value"
  | .missingCommand => "Missing command"
  | .unknownCommand name => "No such command: " ++ name
  | .missingOperand => "Missing argument"
  | .unexpectedOperand operand => "Got unexpected extra argument: " ++ operand
  | .notNumber text => "Not a valid number: " ++ text
  | .noFile path => "File does not exist: " ++ path
  | .missingOrigin => "Either --config or --origin is required"
  | .frameWithoutOrigin => "--frame-origin requires --origin"
  | .notAssignment text => "Expected feature=value, got " ++ text

namespace Arguments

/-- Puts an option in front. -/
def withOptions (given : List GivenOption) (a : Arguments) : Arguments :=
  { a with options := given ++ a.options }

/-- Puts an operand in front. -/
def withOperand (operand : String) (a : Arguments) : Arguments :=
  { a with operands := operand :: a.operands }

/-- The values of an option, in order. -/
def values (a : Arguments) (name : String) : List String :=
  (a.options.filter (·.name == name)).map (·.value)

/-- The last value of an option. -/
def value? (a : Arguments) (name : String) : Option String := (a.values name).getLast?

/-- Whether an option is given. -/
def has (a : Arguments) (name : String) : Bool := a.options.any (·.name == name)

end Arguments

/-- Reads joined short names. An option that has a value takes the rest for it,
or waits for the next word. -/
def readShort (specs : List OptionSpec) :
    List Char → Except UsageFault (List GivenOption × Option OptionSpec)
  | [] => .ok ([], none)
  | c :: rest =>
    match specs.find? (·.short == some c) with
    | none => .error (.unknownOption ("-" ++ String.ofList [c]))
    | some spec =>
      if spec.takesValue then
        if rest.isEmpty then .ok ([], some spec)
        else .ok ([⟨spec.long, String.ofList rest⟩], none)
      else do
        let (given, waiting) ← readShort specs rest
        .ok (⟨spec.long, ""⟩ :: given, waiting)

/-- Reads a word that starts with a dash. -/
def readOption (specs : List OptionSpec) (word : List Char) :
    Except UsageFault (List GivenOption × Option OptionSpec) :=
  let name := String.ofList (word.takeWhile (· != '='))
  match specs.find? (·.long == name), word.dropWhile (· != '=') with
  | some spec, _ :: value =>
    if spec.takesValue then .ok ([⟨spec.long, String.ofList value⟩], none)
    else .error (.unexpectedValue name)
  | some spec, [] =>
    if spec.takesValue then .ok ([], some spec) else .ok ([⟨spec.long, ""⟩], none)
  | none, _ =>
    if word.take 2 == ['-', '-'] then .error (.unknownOption name)
    else readShort specs word.tail

/-- Reads words, the first one as the value of the option `waiting`. Unless
operands may stand among the options, the first one ends them. -/
def readArguments (specs : List OptionSpec) (mixed : Bool) (waiting : Option OptionSpec) :
    List String → Except UsageFault Arguments
  | [] =>
    match waiting with
    | some spec => .error (.missingValue spec.long)
    | none => .ok { options := [], operands := [] }
  | word :: rest =>
    match waiting with
    | some spec => do
      let behind ← readArguments specs mixed none rest
      .ok (behind.withOptions [⟨spec.long, word⟩])
    | none =>
      match word.toList with
      | ['-', '-'] => .ok { options := [], operands := rest }
      | '-' :: c :: chars => do
        let (given, waiting) ← readOption specs ('-' :: c :: chars)
        let behind ← readArguments specs mixed waiting rest
        .ok (behind.withOptions given)
      | _ =>
        if mixed then do
          let behind ← readArguments specs mixed none rest
          .ok (behind.withOperand word)
        else .ok { options := [], operands := word :: rest }

end FeatureGrant.Command
