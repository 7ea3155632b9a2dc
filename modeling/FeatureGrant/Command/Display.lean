import FeatureGrant.Command.Invocation
import FeatureGrant.Command.Outcome
import FeatureGrant.Command.Wording
import FeatureGrant.Policy.Decision

/-!
# Display

How the results of commands are written: failures, policy maps and decisions,
each as a document or as text.
-/

namespace FeatureGrant.Command

open FeatureGrant.Console

/-! ## Failures -/

/-- How a command ends that reports a fault. A trace is read for tags, and one
whose tags make no sense cannot be shown. -/
def report (wording : Wording) (format : Format) (r : Report) (cause : Option String) :
    Outcome :=
  let trace := wording.trace r cause
  if format.json then
    .failed r (.document (.record
      ([("error", .boolean true)] ++ r.record
        ++ (if format.debug then [("traceback", .text trace)] else []))))
  else
    Sheet.print { lines := ["[red]Error: " ++ escape r.text ++ "[/red]"] } fun screen =>
      if format.debug then
        match wording.shown? ("[dim]" ++ trace ++ "[/dim]") with
        | some shown => .failed r (.screen { screen with trace := some shown })
        | none => .crashed "MarkupError" "tags that make no sense" screen
      else .failed r (.screen screen)

/-- How a command ends that fails. Only faults are reported. -/
def fail (wording : Wording) (format : Format) : Failure → Outcome
  | .fault fault cause => report wording format (.of fault) cause
  | .shape model violations =>
    .crashed "ValidationError"
      (toString violations.length ++ " violations of " ++ model) {}
  | .system kind message => .crashed kind message {}

/-- How a command ends that fails or has a result. -/
def conclude {α : Type} (wording : Wording) (format : Format) (outcome : α → Outcome) :
    Except Failure α → Outcome
  | .ok result => outcome result
  | .error failure => fail wording format failure

/-! ## Policy maps -/

/-- An allowlist as a record. -/
def allowlistRecord (a : Allowlist) : Value :=
  .record [("kind", .text a.kind), ("origins", .list (a.members.toList.map .text))]

/-- An allowlist in a table cell. A set without members reads like one that
denies. -/
def allowlistCell : Allowlist → String
  | .wildcard => "[green]*[/green]"
  | .deny => "[red]none[/red]"
  | .origins members =>
    if members.isEmpty then "[red]none[/red]"
    else escape ("\n".intercalate members.toList)

/-- The form of a map in one word. -/
def formWord : Form → String
  | .parsed => "parsed"
  | .normalized => "normalized"

/-- A map as a document. -/
def mapDocument (m : PolicyMap) : Value :=
  .record
    [("normalized", .boolean (m.form == .normalized)),
     ("features", .record (m.grants.map allowlistRecord).entries)]

/-- A map as a table, one row for every feature. -/
def mapTable (title : String) (m : PolicyMap) : Table where
  title := title ++ " (" ++ formWord m.form ++ ")"
  headings := ["Feature", "Allowlist"]
  rows := m.grants.entries.map fun (feature, allowlist) =>
    [escape feature, allowlistCell allowlist]

/-- A map on a sheet. -/
def mapSheet (title : String) (m : PolicyMap) : Sheet :=
  if m.grants.entries.isEmpty then
    { lines := ["[dim]" ++ title ++ ": no features[/dim]"] }
  else { lines := [], table := some (mapTable title m) }

/-- How a command ends that has read a map. -/
def showMap (title : String) (format : Format) (m : PolicyMap) : Outcome :=
  if format.json then .done 0 (.document (mapDocument m))
  else (mapSheet title m).print fun screen => .done 0 (.screen screen)

/-! ## Decisions -/

/-- A decision as a record. -/
def decisionRecord (d : Decision) : Value :=
  .record
    [("allowed", .boolean d.allowed), ("reason", .text d.reason),
     ("rule_matched", Fault.textOrNull d.rule), ("feature", .text d.feature),
     ("origin", Fault.textOrNull d.origin)]

/-- A decision as the row of a table. -/
def decisionRow (d : Decision) : List String :=
  [if d.allowed then "[green]✓[/green]" else "[red]✗[/red]",
   escape d.feature, escape (d.origin.getD "-"), escape (d.rule.getD "-"),
   escape d.reason]

/-- What a policy decides on some features. -/
def decisions (p : Policy) (features : List String) (checkOrigin : Option String) :
    List Decision :=
  features.map fun feature => (p.evaluate feature (Fault.textOrNull checkOrigin)).decision

/-- Decisions as a document, with further fields at its end. -/
def decisionsDocument (p : Policy) (ds : List Decision) (more : List (String × Value)) :
    Value :=
  .record
    ([("origin", .text p.page),
      ("frame_origin", Fault.textOrNull (p.frame.map (·.origin))),
      ("decisions", .list (ds.map decisionRecord)),
      ("all_allowed", .boolean (ds.all (·.allowed)))] ++ more)

/-- Decisions as a table. -/
def decisionsTable (p : Policy) (ds : List Decision) : Table where
  title := "Policy for " ++ escape p.page
    ++ (match p.frame with
        | some frame => " in iframe " ++ escape frame.origin
        | none => "")
  headings := ["", "Feature", "Origin", "Rule", "Reason"]
  rows := ds.map decisionRow

/-- How a command ends that has made decisions. Lines stand above their table,
and fields behind them in a document. -/
def showDecisions (format : Format) (p : Policy) (ds : List Decision)
    (lines : List String) (more : List (String × Value)) : Outcome :=
  let code := if ds.all (·.allowed) then 0 else 1
  if format.json then .done code (.document (decisionsDocument p ds more))
  else
    Sheet.print { lines, table := some (decisionsTable p ds) } fun screen =>
      .done code (.screen screen)

end FeatureGrant.Command
