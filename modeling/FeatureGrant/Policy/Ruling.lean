import FeatureGrant.Policy.Basic

/-!
# Rulings

Whether an origin may use a feature, and which part of the policy decides.  If
neither the header nor the allow attribute mentions the feature, its default
does; otherwise both must allow the origin, so that an allow attribute can
only narrow what the header grants.
-/

namespace FeatureGrant

/-- The part of a policy that decides, with its entry for the feature. -/
inductive Rule
  | invalidOrigin
  | default (value : Default)
  | header (entry : Option Allowlist)
  | allowAttribute (entry : Option Allowlist)
  | missingAttribute
  deriving DecidableEq

/-- The rule of an allow attribute that denies. -/
def Rule.ofAttribute : Option Allowlist → Rule
  | none => missingAttribute
  | some allowlist => allowAttribute (some allowlist)

/-- Why a feature may be used or not. -/
inductive Reason
  | notAnOrigin (shown : String)
  | defaultNone
  | defaultWildcard
  | crossOriginFrame
  | frameItself
  | notTheFrame
  | sameOrigin
  | notThePage
  | headerDenies (origin : String)
  | attributeDenies (origin : String)
  | policyAllows (origin : String)
  deriving DecidableEq, Repr

/-- The answer of a policy. -/
structure Ruling where
  allowed : Bool
  reason : Reason
  rule : Rule
  feature : String
  origin : Option String
  deriving DecidableEq

/-- An entry as a rule shows it. -/
def Rule.entryText (entry : Option Allowlist) : String := entry.elim "None" Allowlist.text

/-- A rule in one line. -/
def Rule.text : Rule → String
  | invalidOrigin => "invalid_origin"
  | default value => "default_allowlist[" ++ value.text ++ "]"
  | header entry => "header[" ++ entryText entry ++ "]"
  | allowAttribute entry => "allow_attribute[" ++ entryText entry ++ "]"
  | missingAttribute => "allow_attribute[missing]"

/-- A reason in words. -/
def Reason.text : Reason → String
  | notAnOrigin shown => "Invalid origin: " ++ shown
  | defaultNone => "Default allowlist is 'none'"
  | defaultWildcard => "Default allowlist is *"
  | crossOriginFrame => "Default allowlist * does not extend to cross-origin frames"
  | frameItself => "Origin is the frame's own origin"
  | notTheFrame => "Default allowlist 'src' only allows the frame's origin"
  | sameOrigin => "Origin is same-origin with the page"
  | notThePage => "Default allowlist 'self' only allows the page's origin"
  | headerDenies origin => "Permissions-Policy header does not allow " ++ origin
  | attributeDenies origin => "iframe allow attribute does not allow " ++ origin
  | policyAllows origin => "Policy allows " ++ origin

/-- Whether the allow attribute of a frame lets an origin use a feature, given
its allowlist there. The frame must be allowed along with the origin. -/
def Frame.allows (page : String) (frame : Frame) (fromFrame : Option Allowlist)
    (checked : String) : Bool :=
  match fromFrame with
  | none => frame.origin == page && checked == frame.origin
  | some .wildcard => checked == frame.origin
  | some .deny => false
  | some (.origins members) =>
    decide (checked ∈ members) && decide (frame.origin ∈ members)

namespace Policy

/-- What a default says about an origin. -/
def defaultVerdict (p : Policy) (value : Default) (checked : String) : Bool × Reason :=
  let frameOrigin := p.frame.map (·.origin)
  match value with
  | .none => (false, .defaultNone)
  | .wildcard =>
    if frameOrigin.all (· == p.page) then (true, .defaultWildcard)
    else (false, .crossOriginFrame)
  | .src =>
    if frameOrigin = some checked then (true, .frameItself) else (false, .notTheFrame)
  | .self =>
    if frameOrigin.all (· == p.page) && checked == p.page then (true, .sameOrigin)
    else (false, .notThePage)

/-- What the header and the allow attribute say about an origin, one of which
mentions the feature. -/
def explicitVerdict (p : Policy) (checked : String)
    (fromHeader fromFrame : Option Allowlist) : Bool × Reason × Rule :=
  if !fromHeader.all (·.allows checked) then
    (false, .headerDenies checked, .header fromHeader)
  else if !p.frame.all fun frame => frame.allows p.page fromFrame checked then
    (false, .attributeDenies checked, .ofAttribute fromFrame)
  else if fromFrame.isSome then (true, .policyAllows checked, .allowAttribute fromFrame)
  else (true, .policyAllows checked, .header fromHeader)

/-- The allowlist of a feature in the allow attribute. -/
def fromFrame (p : Policy) (feature : String) : Option Allowlist :=
  p.frame.bind (·.allow.get? feature)

/-- The ruling on a feature for an origin. -/
def rule (p : Policy) (feature checked : String) : Ruling :=
  match p.header.get? feature, p.fromFrame feature with
  | none, none =>
    let value := (p.defaults.get? feature).getD .self
    let (allowed, reason) := p.defaultVerdict value checked
    { allowed, reason, rule := .default value, feature, origin := some checked }
  | fromHeader, fromFrame =>
    let (allowed, reason, rule) := p.explicitVerdict checked fromHeader fromFrame
    { allowed, reason, rule, feature, origin := some checked }

/-- The ruling on a feature for a value that is meant as an origin. A value
that counts as false stands for the policy's own origin; one that is no URL is
refused. -/
def evaluate (p : Policy) (feature : String) (origin : Value) : Ruling :=
  if origin.isFalsy then p.rule feature p.ownOrigin
  else
    match originOf origin with
    | .ok checked => p.rule feature checked
    | .error _ =>
      { allowed := false, reason := .notAnOrigin origin.shown,
        rule := .invalidOrigin, feature, origin := none }

/-- Whether an origin may use a feature. -/
def allows (p : Policy) (feature : String) (origin : Value) : Bool :=
  (p.evaluate feature origin).allowed

/-- The features that an origin may use, in ascending order. -/
def allowedFeatures (p : Policy) (origin : Value) : List String :=
  p.features.filter fun feature => p.allows feature origin

end Policy

end FeatureGrant
