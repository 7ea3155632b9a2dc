import FeatureGrant.Command.Options
import FeatureGrant.Console.Table
import FeatureGrant.Failure
import FeatureGrant.Value.Document

/-!
# Outcomes

What a command leaves behind: its exit code and what it wrote, which is a
document or a screen of text with at most one table.
-/

namespace FeatureGrant.Command

open FeatureGrant.Console

/-- A screen of text: lines, the title of a table and the lines of its cells,
and the trace of a failure. -/
structure Screen where
  lines : List String := []
  rows : List (List String) := []
  trace : Option String := none
  deriving DecidableEq, Repr

/-- What a command writes. -/
inductive Output
  | screen (screen : Screen)
  | document (value : Value)

/-- How a command ends: with words that make no sense, with help, with an exit
code, with the report of a fault, or with a failure that nothing handles. -/
inductive Outcome
  | usage (fault : UsageFault)
  | help
  | done (code : Nat) (output : Output)
  | failed (report : Report) (output : Output)
  | crashed (kind message : String) (screen : Screen)

/-- The exit code of an outcome. -/
def Outcome.code : Outcome → Nat
  | usage _ => 2
  | help => 0
  | done code _ => code
  | failed .. | crashed .. => 1

/-! ## Printing -/

/-- What is printed: marked-up lines, and at most one table below them. -/
structure Sheet where
  lines : List String
  table : Option Table := none
  deriving DecidableEq, Repr

/-- Whether a marked-up text can be shown. -/
def isShowable (marked : String) : Bool := (shown? marked).isSome

/-- The marked-up texts of a sheet. -/
def Sheet.texts (s : Sheet) : List String :=
  s.lines ++ (s.table.map Table.texts).getD []

/-- The screen of a sheet. A text that cannot be shown ends it. -/
def Sheet.screen (s : Sheet) : Screen :=
  let lines := (s.lines.takeWhile isShowable).filterMap shown?
  match s.table with
  | none => { lines }
  | some table =>
    if s.texts.all isShowable then
      { lines := lines ++ (shown? table.title).toList, rows := table.lines }
    else { lines }

/-- How a command ends that prints a sheet and goes on if all of it can be
shown. -/
def Sheet.print (s : Sheet) (outcome : Screen → Outcome) : Outcome :=
  if s.texts.all isShowable then outcome s.screen
  else .crashed "MarkupError" "closing tag without an open one" s.screen

end FeatureGrant.Command
