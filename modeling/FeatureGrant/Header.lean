import FeatureGrant.Field.Dictionary
import FeatureGrant.Origin
import FeatureGrant.PolicyMap
import FeatureGrant.Text.Ascii

/-!
# The policy header

Reads the value of a policy header: a dictionary that maps every feature to
the origins that may use it.  The first item of a member that is `*` or `none`
decides; otherwise `self` and the usable URLs among the items are listed, and a
list without any denies.
-/

namespace FeatureGrant

open FeatureGrant.Field FeatureGrant.Host FeatureGrant.Text

/-- Why a header is rejected. -/
inductive HeaderFault
  | notAscii (run : ForeignRun)
  | notDictionary
  | missingAllowlist (feature : String)
  | unknownValue (feature : String) (value : BareItem)
  deriving DecidableEq, Repr

namespace Header

/-- The allowlist of a feature's items, behind those that named `found`. -/
def allowlistOf (feature : String) (found : List String) :
    List BareItem → Except HeaderFault Allowlist
  | [] => .ok (if found.isEmpty then .deny else .ofList found)
  | item :: rest =>
    match item.text? with
    | none => .error (.unknownValue feature item)
    | some text =>
      if text = "*" then .ok .wildcard
      else if text = "none" then .ok .deny
      else if text = "self" then
        allowlistOf feature (Keyword.self.text :: found) rest
      else
        match canonical? text with
        | some origin => allowlistOf feature (origin :: found) rest
        | none => allowlistOf feature found rest

/-- The allowlist that a member gives to a feature. -/
def allowlist (feature : String) (member : Member) : Except HeaderFault Allowlist :=
  if member = .item (.boolean true) then .error (.missingAllowlist feature)
  else allowlistOf feature [] member.items

/-- Reads a header. One of nothing but white space mentions no feature. -/
def read (value : String) : Except HeaderFault Grants :=
  let s := value.toList
  if s.all isBlank then .ok ∅
  else
    match foreignRun? s with
    | some run => .error (.notAscii run)
    | none =>
      match readDictionary s with
      | none => .error .notDictionary
      | some members => (OrderedMap.ofList members).traverse allowlist

/-- Reads a header as a map of its own form. -/
def parse (value : String) : Except HeaderFault PolicyMap :=
  (read value).map fun grants => { form := .parsed, grants }

end Header

/-- The fault of a header in the words of the reader, if there are any. -/
def HeaderFault.underlying : HeaderFault → String
  | .notAscii run => run.message
  | _ => ""

end FeatureGrant
