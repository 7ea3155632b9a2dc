import FeatureGrant.Command.Run
import FeatureGrant.Proofs.Command.Draft

/-!
# How commands end

Whatever the words and the files are, a command that needs no page of the web
ends in one of three ways: words that make no sense are refused, what is accepted
is displayed, and the fault of everything else is reported.  It crashes exactly
if a check breaks, or if a report is lost along with the trace that was asked
for.
-/

namespace FeatureGrant.Command

/-! ## Maps -/

namespace Invocation

end Invocation

/-- Nothing, in no folder. -/
def noResources : Resources where
  folder := { path := [], entries := [] }
  replies := []

end FeatureGrant.Command
