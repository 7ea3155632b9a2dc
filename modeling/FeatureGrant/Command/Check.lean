import FeatureGrant.Command.Display
import FeatureGrant.Command.Folder
import FeatureGrant.Fetch.Exchange
import FeatureGrant.Scenario.Load

/-!
# Checks

Evaluates features against a policy that is described by options or by a file,
or that a page on the web has.  A check ends well if all features are allowed.
-/

namespace FeatureGrant.Command

open FeatureGrant.Console FeatureGrant.Text

/-- A feature and the default that is assigned to it, both without white space
around them. -/
def readAssignment (word : String) : Except UsageFault (String × Value) :=
  let feature := trim (word.toList.takeWhile (· != '='))
  match feature, word.toList.dropWhile (· != '=') with
  | _ :: _, _ :: value =>
    .ok (String.ofList feature, .text (String.ofList (trim value)))
  | _, _ => .error (.notAssignment word)

/-- The assignments in some words, in order. -/
def readAssignments : List String → Except UsageFault (List (String × Value))
  | [] => .ok []
  | word :: rest => do
    let assignment ← readAssignment word
    let more ← readAssignments rest
    .ok (assignment :: more)

/-- The defaults that are assigned; of several for a feature the last one
holds. -/
def readDefaults (words : List String) : Except UsageFault (OrderedMap Value) :=
  (readAssignments words).map .ofList

/-! ## Checking features -/

/-- The failure of loading a scenario from a file with some content. -/
def loadFailure (wording : Wording) (path : String) (content : List UInt8) :
    Scenario.LoadFault → Failure
  | .malformed =>
    .fault (.configLoad path (wording.unloaded content .malformed)) (some "YAMLError")
  | .shape violations =>
    .fault (.configLoad path (wording.unloaded content (.shape violations)))
      (some "ValidationError")
  | .system kind message => .system kind message

/-- The policy that a file describes. -/
def policyOfFile (wording : Wording) (path : String) : Entry → Except Failure Policy
  | .folder =>
    .error (.system "IsADirectoryError" ("[Errno 21] Is a directory: " ++ quote path))
  | .file content => do
    let scenario ← (Scenario.ofBytes content).mapError (loadFailure wording path content)
    scenario.policy.mapError (·.failure)

/-- The policy inside a frame, if one is named. -/
def enterFrame (request : CheckRequest) (p : Policy) : Except Failure Policy :=
  match request.frameOrigin with
  | none => .ok p
  | some "" =>
    .error (.shape "FrameInfo" [{ path := [.name "origin"], flaw := .emptyText }])
  | some origin =>
    (p.inherit { origin, allow := .text request.allow }).mapError (·.failure)

/-- The policy that a file or the options describe, inside a frame if one is
named. A file comes first. -/
def describe (wording : Wording) (folder : Folder) (request : CheckRequest) :
    Except UsageFault (Except Failure Policy) :=
  match request.config with
  | some name =>
    match folder.find? name with
    | none => .error (.noFile name)
    | some (path, entry) =>
      .ok ((policyOfFile wording path entry).bind (enterFrame request))
  | none => do
    let defaults ← readDefaults request.defaults
    .ok (((Policy.ofPage (Fault.textOrNull request.origin) (.text request.header)
      defaults).mapError (·.failure)).bind (enterFrame request))

/-- Evaluates features against the policy that is described. -/
def check (wording : Wording) (folder : Folder) (request : CheckRequest)
    (format : Format) : Outcome :=
  match describe wording folder request with
  | .error fault => .usage fault
  | .ok described =>
    conclude wording format
      (fun p => showDecisions format p
        (decisions p request.features request.checkOrigin) [] [])
      described

/-! ## Fetching pages -/

/-- The lines above the decisions on a page: where it was found and its
header. -/
def pageLines (page : Fetch.Page) : List String :=
  let header := if page.header.isEmpty then "(none)" else page.header
  ["[dim]" ++ escape page.url ++ " (" ++ toString page.status ++ ")[/dim]",
   "[dim]Permissions-Policy: " ++ escape header ++ "[/dim]"]

/-- The fields of a page in a document. -/
def pageFields (page : Fetch.Page) : List (String × Value) :=
  [("url", .text page.url), ("header", .text page.header)]

/-- The features that are asked about: those of the request, or all that the
policy knows. -/
def FetchRequest.featuresFor (request : FetchRequest) (p : Policy) : List String :=
  if request.features.isEmpty then p.features else request.features

/-- Evaluates features against the policy of a page on the web, whose origin is
that of the URL where it was found. -/
def fetch (wording : Wording) (replies : List Fetch.Reply) (request : FetchRequest)
    (format : Format) : Outcome :=
  conclude wording format (fun page =>
    match readDefaults request.defaults with
    | .error fault => .usage fault
    | .ok defaults =>
      conclude wording format (fun p =>
        showDecisions format p (decisions p (request.featuresFor p) request.checkOrigin)
          (pageLines page) (pageFields page))
        ((Policy.ofPage (.text page.url) (.text page.header) defaults).mapError
          (·.failure)))
    ((Fetch.fetch replies request.url).result.mapError (·.failure request.url))

end FeatureGrant.Command
