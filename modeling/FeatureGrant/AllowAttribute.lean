import FeatureGrant.Origin
import FeatureGrant.PolicyMap

/-!
# The allow attribute

Reads the `allow` attribute of a frame: directives separated by semicolons,
each a feature and its targets separated by white space.  Every text can be
read: empty directives are skipped, and targets that are neither keywords nor
URLs are dropped.
-/

namespace FeatureGrant.AllowAttribute

open FeatureGrant.Text

/-- The origin or keyword that a target names, if it names one. -/
def target? (target : String) : Option String :=
  if target = Keyword.self.text ∨ target = Keyword.src.text then some target
  else canonical? target

/-- The allowlist of a list of targets. -/
def allowlist (targets : List String) : Allowlist :=
  if "*" ∈ targets then .wildcard
  else if Keyword.none.text ∈ targets then .deny
  else .ofList (targets.filterMap target?)

/-- The feature of a directive and its allowlist, unless it is empty. -/
def directive? (directive : List Char) : Option (String × Allowlist) :=
  match (words directive).map String.ofList with
  | [] => none
  | feature :: targets => some (feature, allowlist targets)

/-- The directives in order. -/
def directives (s : List Char) : List (String × Allowlist) :=
  (s.splitOn ';').filterMap directive?

/-- Reads an attribute. -/
def read (value : String) : Grants := OrderedMap.ofList (directives value.toList)

/-- Reads an attribute as a map of its own form. -/
def parse (value : String) : PolicyMap := { form := .parsed, grants := read value }

end FeatureGrant.AllowAttribute
