import FeatureGrant.Command.Check

/-!
# Running command lines

Carries out what a command line asks for, given the files that it can see and
the replies that its requests get.
-/

namespace FeatureGrant.Command

/-- What a command can reach, and the wording of what it passes on. -/
structure Resources where
  folder : Folder
  replies : List Fetch.Reply
  wording : Wording := .plain

/-- The version of the program. -/
def version : String := "0.1.0"

/-- The origin of a frame, if one is named. An empty name counts as none. -/
def sourceOf (frameOrigin : Option String) : Except Failure (Option String) :=
  match frameOrigin.filter (· ≠ "") with
  | some frame => ((originOf (.text frame)).mapError (·.failure)).map some
  | none => .ok none

/-- A map, brought into normalized form if a page is named. The frame is read
before the page. -/
def normalizeFor (origin frameOrigin : Option String) (m : PolicyMap) :
    Except Failure PolicyMap :=
  match origin with
  | none => .ok m
  | some origin => do
    let src ← sourceOf frameOrigin
    let page ← (originOf (.text origin)).mapError (·.failure)
    (m.normalize page src).mapError (·.failure "NormalizedPolicy" [])

/-- The map that a header describes. -/
def headerMap (value : String) (origin : Option String) : Except Failure PolicyMap := do
  let parsed ← (Header.parse value).mapError (·.failure value)
  normalizeFor origin none parsed

/-- The map that an allow attribute describes. -/
def allowMap (value : String) (origin frameOrigin : Option String) :
    Except Failure PolicyMap :=
  normalizeFor origin frameOrigin (AllowAttribute.parse value)

/-- Reads a header and shows it. -/
def parseHeader (wording : Wording) (value : String) (origin : Option String)
    (format : Format) : Outcome :=
  conclude wording format (showMap "Permissions-Policy" format) (headerMap value origin)

/-- Reads an allow attribute and shows it. -/
def parseAllow (wording : Wording) (value : String) (origin frameOrigin : Option String)
    (format : Format) : Outcome :=
  conclude wording format (showMap "allow" format) (allowMap value origin frameOrigin)

/-- Carries out what is asked for. -/
def Invocation.run (resources : Resources) : Invocation → Outcome
  | version =>
    Sheet.print
      { lines := ["[bold]permissions-policy[/bold] version " ++ Command.version] }
      fun screen => .done 0 (.screen screen)
  | help => .help
  | parseHeader value origin format =>
    Command.parseHeader resources.wording value origin format
  | parseAllow value origin frameOrigin format =>
    Command.parseAllow resources.wording value origin frameOrigin format
  | check request format =>
    Command.check resources.wording resources.folder request format
  | fetch request format =>
    Command.fetch resources.wording resources.replies request format

/-- Runs a command line. -/
def run (resources : Resources) (words : List String) : Outcome :=
  match Invocation.read words with
  | .error fault => .usage fault
  | .ok invocation => invocation.run resources

end FeatureGrant.Command
