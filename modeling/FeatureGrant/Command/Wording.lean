import FeatureGrant.Console.Markup
import FeatureGrant.Failure
import FeatureGrant.Scenario.Load

/-!
# Wordings

Some texts that commands write are not their own: what a loader says about a
file that it does not load, and the trace of an error, which is shown unescaped.
They differ from one run to the next, and what a console takes for a tag in them
is not for the commands to say.  A wording says what they are in a run.
-/

namespace FeatureGrant.Command

/-- The texts that commands pass on, and what the console shows of a text whose
tags are not the program's own. -/
structure Wording where
  /-- What is said about a content that is not loaded. -/
  unloaded : List UInt8 → Scenario.LoadFault → String
  /-- The trace of a fault, given its report and the kind of error behind it. -/
  trace : Report → Option String → String
  /-- What is shown of a text, unless its tags make no sense. -/
  shown? : String → Option String

/-- What a plain wording says about a content that is not loaded. -/
def plainUnloaded : Scenario.LoadFault → String
  | .malformed => "not a YAML document"
  | .shape violations => "; ".intercalate (violations.map (·.flaw.message))
  | .system kind message => kind ++ ": " ++ message

/-- The trace of a fault in a plain wording: the fault and the kind of error
behind it. -/
def plainTrace (r : Report) (cause : Option String) : String :=
  r.fault.kind ++ ": " ++ r.text
    ++ (match cause with
        | some kind => "\nCaused by " ++ kind
        | none => "")

/-- A wording to run commands with, in place of what the loaders and the console
themselves say. -/
def Wording.plain : Wording where
  unloaded _ := plainUnloaded
  trace := plainTrace
  shown? := Console.shown?

end FeatureGrant.Command
