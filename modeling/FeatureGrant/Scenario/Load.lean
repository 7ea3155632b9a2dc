import FeatureGrant.Policy.Arguments
import FeatureGrant.Yaml.Document

/-!
# Loading scenarios

Reads a scenario from a YAML text or from a file.  Lines of a file may end in
any of the usual ways.
-/

namespace FeatureGrant.Scenario

open FeatureGrant.Schema FeatureGrant.Text

/-- Why a scenario cannot be loaded. -/
inductive LoadFault
  | malformed
  | shape (violations : List Violation)
  | system (kind message : String)

/-- The scenario that a text describes. -/
def ofText (text : List Char) : Except LoadFault (Scenario Held) :=
  match Yaml.load text with
  | .error .malformed => .error .malformed
  | .error (.system kind message) => .error (.system kind message)
  | .ok value => (Schema.scenario .none value).mapError .shape

/-- A text with every end of a line turned into a line feed. -/
def unifyLines : List Char → List Char
  | '\r' :: '\n' :: rest => '\n' :: unifyLines rest
  | '\r' :: rest => '\n' :: unifyLines rest
  | c :: rest => c :: unifyLines rest
  | [] => []

/-- The failure to read bytes as text. -/
def undecodable (fault : Utf8Fault) : LoadFault :=
  let place :=
    if fault.length == 1 then
      "byte 0x" ++ String.ofList (hexDigits 2 fault.first.toNat) ++ " in position "
        ++ toString fault.start
    else
      "bytes in position " ++ toString fault.start ++ "-"
        ++ toString (fault.start + fault.length - 1)
  .system "UnicodeDecodeError"
    ("'utf-8' codec can't decode " ++ place ++ ": " ++ fault.reason)

/-- The scenario that the bytes of a file describe. -/
def ofBytes (bytes : List UInt8) : Except LoadFault (Scenario Held) :=
  match decodeUtf8 bytes with
  | .error fault => .error (undecodable fault)
  | .ok chars => ofText (unifyLines chars)

/-- The failure of looking for a file that is not there. -/
def missingFile (path : String) : LoadFault :=
  .system "FileNotFoundError" ("[Errno 2] No such file or directory: " ++ quote path)

/-- The policy of a scenario. -/
def policy (s : Scenario Held) : Except BuildFault Policy :=
  Policy.build (.text s.origin) (.text s.header) (s.defaults.map fun d => .text d.text)
    (s.frame.map (·.mapAllow Held.content))

end FeatureGrant.Scenario
