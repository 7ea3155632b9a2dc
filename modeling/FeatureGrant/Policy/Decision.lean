import FeatureGrant.Policy.Ruling

/-!
# Decisions

A ruling as a flat record of texts, which is what is reported.
-/

namespace FeatureGrant

/-- Whether a feature may be used, and why. -/
structure Decision where
  allowed : Bool
  reason : String
  rule : Option String := none
  feature : String := ""
  origin : Option String := none
  deriving DecidableEq, Repr

/-- A ruling in words. -/
def Ruling.decision (r : Ruling) : Decision :=
  { allowed := r.allowed
    reason := r.reason.text
    rule := some r.rule.text
    feature := r.feature
    origin := r.origin }

end FeatureGrant
