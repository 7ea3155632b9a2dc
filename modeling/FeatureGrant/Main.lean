import FeatureGrant.Command.Run
import FeatureGrant.Console.Layout

/-!
# The program

Reads the file that a command line names, runs the command line and writes what
it leaves behind.  The program has no network of its own, so that fetching a
page fails.
-/

namespace FeatureGrant.Command

/-- What to do when help is asked for. -/
def helpLines : List String :=
  ["Usage: permissions-policy [--version] [--verbose] COMMAND ...", "",
   "  parse-header VALUE    Show how a policy header is parsed",
   "  parse-allow VALUE     Show how an allow attribute is parsed",
   "  check FEATURES...     Evaluate features against a policy",
   "  fetch URL             Evaluate features against the policy of a page"]

/-- What a name stands for on disk. -/
def readEntry (name : String) : IO (Option Entry) := do
  try
    let content ← IO.FS.readBinFile name
    return some (.file content.toList)
  catch e =>
    match e with
    | .noFileOrDirectory .. => return none
    | _ => return some .folder

/-- The current folder, with the file that an invocation names. -/
def currentFolder (words : List String) : IO Folder := do
  let path := ((← IO.currentDir).toString.toList.splitOn '/').map String.ofList
  let path := path.filter (· ≠ "")
  match Invocation.read words with
  | .ok (.check request _) =>
    match request.config with
    | none => return { path, entries := [] }
    | some name =>
      match ← readEntry name with
      | none => return { path, entries := [] }
      | some entry => return { path, entries := [(name, entry)] }
  | _ => return { path, entries := [] }

/-- Writes a screen. -/
def writeScreen (s : Screen) : IO Unit := do
  for line in s.lines ++ Console.layOut s.rows ++ s.trace.toList do
    IO.println line

/-- Writes what a command writes. -/
def writeOutput : Output → IO Unit
  | .screen s => writeScreen s
  | .document d => IO.println d.document

/-- Writes what an outcome leaves behind. -/
def writeOutcome : Outcome → IO Unit
  | .usage fault => IO.eprintln ("Error: " ++ fault.message)
  | .help => helpLines.forM IO.println
  | .done _ output | .failed _ output => writeOutput output
  | .crashed kind message screen => do
    writeScreen screen
    IO.eprintln (kind ++ ": " ++ message)

end FeatureGrant.Command

/-- Runs the program. -/
def main (words : List String) : IO UInt32 := do
  let folder ← FeatureGrant.Command.currentFolder words
  let replies := [.failure "ConnectError" "no network connection"]
  let outcome := FeatureGrant.Command.run { folder, replies } words
  FeatureGrant.Command.writeOutcome outcome
  return UInt32.ofNat outcome.code
