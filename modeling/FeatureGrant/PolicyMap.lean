import FeatureGrant.Allowlist
import FeatureGrant.OrderedMap

/-!
# Policy maps

A map from features to allowlists, as it was written or with its keywords
resolved.
-/

namespace FeatureGrant

/-- An allowlist per feature. -/
abbrev Grants := OrderedMap Allowlist

/-- Whether the keywords of a map are resolved. -/
inductive Form
  | parsed
  | normalized
  deriving DecidableEq, Repr

/-- The name of a map of this form. -/
def Form.name : Form → String
  | parsed => "ParsedPolicy"
  | normalized => "NormalizedPolicy"

/-- An allowlist per feature, and whether its keywords are resolved. -/
structure PolicyMap where
  form : Form
  grants : Grants
  deriving DecidableEq

namespace PolicyMap

/-- The first feature whose allowlist holds a keyword. -/
def firstUnresolved? (grants : Grants) : Option String :=
  (grants.entries.find? (·.2.hasKeywords)).map Prod.fst

/-- Maps are the same if they have the same form and the same entries, in any
order. -/
def same (m n : PolicyMap) : Bool :=
  m.form == n.form && m.grants.sameEntries n.grants

end PolicyMap

end FeatureGrant
