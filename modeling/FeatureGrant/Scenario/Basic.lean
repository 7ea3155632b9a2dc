import FeatureGrant.Default
import FeatureGrant.OrderedMap
import FeatureGrant.Policy.Frame

/-!
# Scenarios

Everything that is needed to build a policy, as it is written in a document.
-/

namespace FeatureGrant

/-- A page with its header and defaults, and the frame in it. -/
structure Scenario (μ : Type) where
  origin : String
  header : String
  defaults : OrderedMap Default
  frame : Option (FrameInfo μ)
  deriving DecidableEq

end FeatureGrant
