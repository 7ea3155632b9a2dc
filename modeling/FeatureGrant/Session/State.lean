import FeatureGrant.Policy.Arguments

/-!
# Session states

Named objects, some of which can be changed in place: mappings and policy
maps.  Other records hold policy maps by their number, so that a change shows
in all of them.  A policy holds maps of its own.
-/

namespace FeatureGrant.Session

/-- A policy with the numbers of the maps that it holds. -/
structure LivePolicy where
  page : String
  header : Nat
  defaults : OrderedMap Default
  frame : Option (String × Nat)

/-- What an object is. -/
inductive Content
  | mapping (entries : OrderedMap Value)
  | policyMap (value : PolicyMap)
  | allowlist (value : Allowlist)
  | frameInfo (value : FrameInfo Nat)
  | frameContext (origin : String) (allow : Nat)
  | decision (value : Decision)
  | scenario (value : Scenario Nat)
  | page (value : Fetch.Page)
  | policy (value : LivePolicy)

/-- What a name stands for: an object, a part of a policy that is not an
object of its own, a truth value or nothing. -/
inductive Ref
  | object (number : Nat)
  | originOf (policy : Nat)
  | defaultsOf (policy : Nat)
  | flag (value : Bool)
  | nothing
  deriving DecidableEq, Repr

/-- The objects of a session, by number, and their names. -/
structure State where
  objects : List Content
  names : OrderedMap Ref

namespace State

/-- The state in which nothing is named. -/
def empty : State := { objects := [], names := ∅ }

/-- The policy map with a number. -/
def mapAt (s : State) (number : Nat) : PolicyMap :=
  match s.objects[number]? with
  | some (.policyMap m) => m
  | _ => { form := .parsed, grants := ∅ }

/-- The policy that a live one is now. -/
def snapshot (s : State) (p : LivePolicy) : Policy where
  page := p.page
  header := (s.mapAt p.header).grants
  defaults := p.defaults
  frame := p.frame.map fun (origin, allow) => { origin, allow := (s.mapAt allow).grants }

/-- The live policy with a number. -/
def policyAt? (s : State) (number : Nat) : Option LivePolicy :=
  match s.objects[number]? with
  | some (.policy p) => some p
  | _ => none

/-- A map that is held by number. -/
def held (s : State) (number : Nat) : Held := .shared number (s.mapAt number)

/-- The instance that an object is. -/
def instanceOf (s : State) : Content → Instance
  | .mapping entries =>
    .mapping "dict" (entries.entries.map fun (key, value) => (.text key, value))
  | .policyMap m => .policyMap m
  | .allowlist a => .allowlist a
  | .frameInfo info => .frameInfo (info.mapAllow s.held)
  | .frameContext origin allow => .frameContext origin (s.held allow)
  | .decision d => .decision d
  | .scenario c =>
    .scenario { origin := c.origin, header := c.header, defaults := c.defaults
                frame := c.frame.map (·.mapAllow s.held) }
  | .page p => .page p
  | .policy _ => .other "PermissionsPolicy"

/-- The instances of all objects. -/
def registry (s : State) : Registry := fun number =>
  match s.objects[number]? with
  | some content => s.instanceOf content
  | none => .other ""

/-- Adds an object. Its number is that of the objects before it. -/
def add (s : State) (content : Content) : State × Nat :=
  ({ s with objects := s.objects ++ [content] }, s.objects.length)

/-- Changes an object in place. -/
def set (s : State) (number : Nat) (content : Content) : State :=
  { s with objects := s.objects.set number content }

/-- Names something, if a name is given. -/
def bind (s : State) (name : Option String) (ref : Ref) : State :=
  match name with
  | some name => { s with names := s.names.insert name ref }
  | none => s

/-- Keeps a map: a new one becomes an object. -/
def keep (s : State) : Held → State × Nat
  | .fresh m => s.add (.policyMap m)
  | .shared number _ => (s, number)

/-- Keeps a frame with the map of its allow attribute. -/
def keepFrame (s : State) (info : FrameInfo Held) : State × FrameInfo Nat :=
  match info.allow with
  | .text value => (s, { origin := info.origin, allow := .text value })
  | .map held =>
    let (s, number) := s.keep held
    (s, { origin := info.origin, allow := .map number })

/-- Keeps a policy. Its maps become objects of its own. -/
def keepPolicy (s : State) (p : Policy) : State × Nat :=
  let own := fun grants => Content.policyMap { form := .normalized, grants }
  let (s, header) := s.add (own p.header)
  match p.frame with
  | none =>
    s.add (.policy { page := p.page, header, defaults := p.defaults, frame := none })
  | some frame =>
    let (s, allow) := s.add (own frame.allow)
    s.add (.policy { page := p.page, header, defaults := p.defaults
                     frame := some (frame.origin, allow) })

/-- The origin of the page of the policy with a number. -/
def originAt (s : State) (number : Nat) : String :=
  ((s.policyAt? number).map (·.page)).getD ""

/-- The defaults of the policy with a number. -/
def defaultsAt (s : State) (number : Nat) : OrderedMap Default :=
  ((s.policyAt? number).map (·.defaults)).getD ∅

/-- What a name stands for, as a value. -/
def valueOf (s : State) : Ref → Value
  | .object number => .object number ""
  | .originOf number => .text (s.originAt number)
  | .defaultsOf number =>
    .map ((s.defaultsAt number).entries.map fun (key, d) => (.text key, .text d.text))
  | .flag b => .boolean b
  | .nothing => .null

/-- What a name stands for. -/
def lookup (s : State) (name : String) : Except Failure Ref :=
  match s.names.get? name with
  | some ref => .ok ref
  | none => .error (.system "KeyError" (Text.quote name))

mutual

/-- Replaces every reference in a value, a map whose only key is `ref`, by
what it names. -/
def resolve (s : State) : Value → Except Failure Value
  | .map [(.text "ref", .text name)] => (s.lookup name).map s.valueOf
  | .map entries => (s.resolveEntries entries).map .map
  | .list items => (s.resolveAll items).map .list
  | v => .ok v

/-- Replaces every reference in the items of a list. -/
def resolveAll (s : State) : List Value → Except Failure (List Value)
  | [] => .ok []
  | v :: rest => do
    let v ← s.resolve v
    let rest ← s.resolveAll rest
    .ok (v :: rest)

/-- Replaces every reference in the values of a map. -/
def resolveEntries (s : State) :
    List (Value × Value) → Except Failure (List (Value × Value))
  | [] => .ok []
  | (key, v) :: rest => do
    let v ← s.resolve v
    let rest ← s.resolveEntries rest
    .ok ((key, v) :: rest)

end

/-- The reference that a value is, if it is nothing but one. -/
def reference? (s : State) : Value → Option Ref
  | .map [(.text "ref", .text name)] => s.names.get? name
  | _ => none

end State

end FeatureGrant.Session
