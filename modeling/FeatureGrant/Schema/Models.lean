import FeatureGrant.Fetch.Page
import FeatureGrant.Policy.Decision
import FeatureGrant.Scenario.Basic
import FeatureGrant.Schema.Record

/-!
# The shapes of the library's records

Checks data against the shape of each record.  Where a record of the right
kind is held already it is taken as it is, except that a resolved map must
still be free of keywords.
-/

namespace FeatureGrant

/-- A policy map in a record: a new one, or one that is held elsewhere and may
be changed there, with what it holds now. -/
inductive Held
  | fresh (content : PolicyMap)
  | shared (number : Nat) (content : PolicyMap)
  deriving DecidableEq

/-- The map itself. -/
def Held.content : Held → PolicyMap
  | fresh m => m
  | shared _ m => m

/-- What an object is that stands in data. -/
inductive Instance
  | allowlist (value : Allowlist)
  | policyMap (value : PolicyMap)
  | frameInfo (value : FrameInfo Held)
  | frameContext (origin : String) (allow : Held)
  | decision (value : Decision)
  | scenario (value : Scenario Held)
  | page (value : Fetch.Page)
  | mapping (typeName : String) (entries : List (Value × Value))
  | other (typeName : String)

/-- The objects that data may hold, by number. -/
abbrev Registry := Nat → Instance

/-- The registry of data without objects. -/
def Registry.none : Registry := fun _ => .other ""

/-- The entries of a map. -/
def Registry.entries? (known : Registry) : Value → Option (List (Value × Value))
  | .map entries => some entries
  | .object number _ =>
    match known number with
    | .mapping _ entries => some entries
    | _ => Option.none
  | _ => Option.none

/-- What an object is; data is no object. -/
def Registry.instance? (known : Registry) : Value → Instance
  | .object number _ => known number
  | _ => .other ""

namespace Schema

variable (known : Registry)

/-- The entries of a record. -/
def entriesOf (model : String) (v : Value) : Checked (List (Value × Value)) :=
  match known.entries? v with
  | some entries => .ok entries
  | none => flawed (.notRecord model)

/-- The entries of a map with checked values. -/
def mapField {α : Type} (check : Value → Checked α) (v : Value) :
    Checked (OrderedMap α) :=
  match known.entries? v with
  | some entries => mapOf check entries
  | none => flawed .notMap

/-- The kind of an allowlist. -/
inductive Kind
  | wildcard
  | deny
  | origins

/-- Reads the kind of an allowlist. -/
def kind (v : Value) : Checked Kind :=
  match text v with
  | .ok "*" => .ok .wildcard
  | .ok "none" => .ok .deny
  | .ok "origins" => .ok .origins
  | _ => flawed (.notOneOf "'*', 'none' or 'origins'")

/-- An allowlist of a kind. Only the last kind lists origins. -/
def allowlistOf (k : Kind) (members : SortedSet) : Checked Allowlist :=
  match k with
  | .wildcard =>
    if members.isEmpty then .ok .wildcard else flawed (.listedOrigins "*")
  | .deny => if members.isEmpty then .ok .deny else flawed (.listedOrigins "none")
  | .origins => .ok (.origins members)

/-- An allowlist. -/
def allowlist (v : Value) : Checked Allowlist :=
  match known.instance? v with
  | .allowlist value => .ok value
  | _ => do
    let entries ← entriesOf known "AllowList" v
    let ((kind, members), _) ← both
      (both (optional "kind" .origins kind entries)
        (optional "origins" ∅ textSet entries))
      (extras ["kind", "origins"] entries)
    allowlistOf kind members

/-- The features of a policy map. -/
def grants (form : Form) (v : Value) : Checked Grants := do
  let entries ← entriesOf known form.name v
  let (grants, _) ← both
    (optional "features" ∅ (mapField known (allowlist known)) entries)
    (extras ["features"] entries)
  .ok grants

/-- A resolved map holds no keyword. -/
def resolved (grants : Grants) : Checked Unit :=
  match PolicyMap.firstUnresolved? grants with
  | some feature => flawed (.unresolvedKeyword feature)
  | none => .ok ()

/-- The number of an object. -/
def numberOf : Value → Nat
  | .object number _ => number
  | _ => 0

/-- A policy map that is held and of a form, or else a new one. -/
def heldMap (form : Form) (v : Value) : Checked Held :=
  match known.instance? v with
  | .policyMap m =>
    if m.form = form then .ok (.shared (numberOf v) m)
    else flawed (.notRecord form.name)
  | _ => (grants known form v).map fun grants => .fresh { form, grants }

/-- A policy map of a form. -/
def policyMap (form : Form) (v : Value) : Checked Held := do
  let held ← heldMap known form v
  match form with
  | .parsed => .ok held
  | .normalized => do
    resolved held.content.grants
    .ok held

/-- The name under which violations of a resolved map are listed where it is
one of several choices. -/
def resolvedChoice : String := "function-after[_no_symbolic_keywords(), NormalizedPolicy]"

/-- An allow attribute: a text, or a map of either form. If it is none of
them, the violations of all three choices are listed. -/
def allowSource (v : Value) : Checked (Source Held) :=
  match text v with
  | .ok s => .ok (.text s)
  | .error notText =>
    match policyMap known .parsed v with
    | .ok m => .ok (.map m)
    | .error notParsed =>
      match policyMap known .normalized v with
      | .ok m => .ok (.map m)
      | .error notNormalized =>
        .error (behind (.name "str") notText
          ++ behind (.name "ParsedPolicy") notParsed
          ++ behind (.name resolvedChoice) notNormalized)

/-- A frame as it is described. -/
def frameInfo (v : Value) : Checked (FrameInfo Held) :=
  match known.instance? v with
  | .frameInfo value => .ok value
  | _ => do
    let entries ← entriesOf known "FrameInfo" v
    let ((origin, allow), _) ← both
      (both (required "origin" nonemptyText entries)
        (optional "allow" (.text "") (allowSource known) entries))
      (extras ["origin", "allow"] entries)
    .ok { origin, allow }

/-- A frame with a resolved allow attribute. -/
def frameContext (v : Value) : Checked (String × Held) :=
  match known.instance? v with
  | .frameContext origin allow => .ok (origin, allow)
  | _ => do
    let entries ← entriesOf known "FrameContext" v
    let (context, _) ← both
      (both (required "origin" text entries)
        (optional "allow" (.fresh { form := .normalized, grants := ∅ })
          (policyMap known .normalized) entries))
      (extras ["origin", "allow"] entries)
    .ok context

/-- A decision. -/
def decision (v : Value) : Checked Decision :=
  match known.instance? v with
  | .decision value => .ok value
  | _ => do
    let entries ← entriesOf known "PolicyDecision" v
    let (((((allowed, reason), rule), feature), origin), _) ← both
      (both (both (both (both (required "allowed" flag entries)
        (required "reason" text entries))
        (optional "rule_matched" none (nullable text) entries))
        (optional "feature" "" text entries))
        (optional "origin" none (nullable text) entries))
      (extras ["allowed", "reason", "rule_matched", "feature", "origin"] entries)
    .ok { allowed, reason, rule, feature, origin }

/-- A default allowlist. Bytes count as text only for its own text. -/
def default (v : Value) : Checked Default :=
  let own := match v with
    | .bytes _ =>
      match text v with
      | .ok s => Default.all.find? fun d => d.text = s
      | .error _ => none
    | v => Default.ofValue? v
  match own with
  | some d => .ok d
  | none => flawed (.notOneOf "'*', \"'self'\", \"'src'\" or \"'none'\"")

/-- A scenario. -/
def scenario (v : Value) : Checked (Scenario Held) :=
  match known.instance? v with
  | .scenario value => .ok value
  | _ => do
    let entries ← entriesOf known "PolicyConfig" v
    let ((((origin, header), defaults), frame), _) ← both
      (both (both (both (required "origin" nonemptyText entries)
        (optional "header" "" text entries))
        (optional "default_allowlist" ∅ (mapField known default) entries))
        (optional "frame" none (nullable (frameInfo known)) entries))
      (extras ["origin", "header", "default_allowlist", "frame"] entries)
    .ok { origin, header, defaults, frame }

/-- A fetched page. -/
def page (v : Value) : Checked Fetch.Page :=
  match known.instance? v with
  | .page value => .ok value
  | _ => do
    let entries ← entriesOf known "FetchedPolicy" v
    let (((url, status), header), _) ← both
      (both (both (required "url" text entries)
        (required "status_code" integer entries))
        (optional "header" "" text entries))
      (extras ["url", "status_code", "header"] entries)
    .ok { url, status, header }

end Schema

end FeatureGrant
