import FeatureGrant.PolicyMap

/-!
# Frames

A frame as it is described by the page that embeds it, and as it is kept by a
policy: with the text of its origin and with the keywords of its allow
attribute resolved.
-/

namespace FeatureGrant

/-- A header or an allow attribute, as text or as a map that was read. -/
inductive Source (μ : Type)
  | text (value : String)
  | map (value : μ)
  deriving DecidableEq, Repr

/-- Changes the map of a source. -/
def Source.mapValue {μ ν : Type} (f : μ → ν) : Source μ → Source ν
  | text value => .text value
  | map value => .map (f value)

/-- A frame as it is described: its URL and its allow attribute. -/
structure FrameInfo (μ : Type) where
  origin : String
  allow : Source μ
  deriving DecidableEq, Repr

/-- Changes the map of a frame's allow attribute. -/
def FrameInfo.mapAllow {μ ν : Type} (f : μ → ν) (info : FrameInfo μ) : FrameInfo ν :=
  { origin := info.origin, allow := info.allow.mapValue f }

/-- A frame of a policy. -/
structure Frame where
  origin : String
  allow : Grants
  deriving DecidableEq

end FeatureGrant
