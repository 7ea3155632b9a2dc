import FeatureGrant.Session.State

/-!
# Session steps

A step makes an object, looks at one or changes one.  A step that fails
changes nothing.
-/

namespace FeatureGrant.Session

/-- A property of a policy. -/
inductive Property
  | header
  | defaults
  | frame
  | origin
  | isFrame

/-- The shape of a record to be made. -/
inductive Model
  | allowlist
  | policyMap (form : Form)
  | frameInfo
  | frameContext
  | decision
  | scenario
  | page

/-- A step. Values may hold references to named objects. -/
inductive Step
  | letMapping (name : Option String) (value : Value)
  | parseHeader (name : Option String) (value : Value)
  | parseAllow (name : Option String) (value : Value)
  | make (name : Option String) (model : Model) (fields : Value)
  | normalize (name : Option String) (of : String) (page src : Value)
  | policy (name : Option String) (origin header defaults frame : Value)
  | inherit (name : Option String) (of : String) (frame : Value)
  | get (name : Option String) (of : String) (property : Property)
  | look (of : String)
  | same (a b : String)
  | contains (of : String) (feature : String)
  | evaluate (of : String) (feature : String) (origin : Value)
  | allows (of : String) (feature : String) (origin : Value)
  | features (of : String)
  | allowedFeatures (of : String) (origin : Value)
  | set (of : String) (key : String) (value : Value)
  | assign (of : String) (field : String)

/-- What a step shows. -/
inductive Shown
  | entries (value : List (String × Value))
  | policyMap (value : PolicyMap)
  | allowlist (value : Allowlist)
  | frameInfo (value : FrameInfo Held)
  | frameContext (origin : String) (allow : PolicyMap)
  | decision (value : Decision)
  | scenario (value : Scenario Held)
  | page (value : Fetch.Page)
  | policy (value : Policy)
  | text (value : String)
  | flag (value : Bool)
  | nothing
  | comparison (identical equal : Bool)
  | contains (value : Bool)
  | allowed (value : Bool)
  | features (value : List String)

namespace State

/-- How an object is shown. -/
def showContent (s : State) : Content → Shown
  | .mapping m => .entries m.entries
  | .policyMap m => .policyMap m
  | .allowlist a => .allowlist a
  | .frameInfo info => .frameInfo (info.mapAllow s.held)
  | .frameContext origin allow => .frameContext origin (s.mapAt allow)
  | .decision d => .decision d
  | .scenario c =>
    .scenario { origin := c.origin, header := c.header, defaults := c.defaults
                frame := c.frame.map (·.mapAllow s.held) }
  | .page p => .page p
  | .policy p => .policy (s.snapshot p)

/-- How something is shown. -/
def showRef (s : State) : Ref → Shown
  | .object number =>
    match s.objects[number]? with
    | some content => s.showContent content
    | none => .nothing
  | .originOf number => .text (s.originAt number)
  | .defaultsOf number =>
    .entries ((s.defaultsAt number).entries.map fun (key, d) => (key, .text d.text))
  | .flag b => .flag b
  | .nothing => .nothing

/-- Whether two frames are equal. -/
def sameFrame (s : State) (a b : FrameInfo Nat) : Bool :=
  a.origin == b.origin
    && match a.allow, b.allow with
      | .text x, .text y => x == y
      | .map m, .map n => (s.mapAt m).same (s.mapAt n)
      | _, _ => false

/-- Whether two objects are equal: records by their fields, policies only if
they are one. -/
def sameContent (s : State) : Content → Content → Bool
  | .policyMap m, .policyMap n => m.same n
  | .allowlist a, .allowlist b => a == b
  | .frameInfo a, .frameInfo b => s.sameFrame a b
  | .frameContext x m, .frameContext y n => x == y && (s.mapAt m).same (s.mapAt n)
  | .decision a, .decision b => a == b
  | .scenario a, .scenario b =>
    a.origin == b.origin && a.header == b.header && a.defaults.sameEntries b.defaults
      && match a.frame, b.frame with
        | none, none => true
        | some x, some y => s.sameFrame x y
        | _, _ => false
  | .page a, .page b => a == b
  | _, _ => false

/-- The entries of a mapping, which may be the defaults of a policy. -/
def mappingOf? (s : State) : Ref → Option (List (Value × Value))
  | .object number =>
    match s.objects[number]? with
    | some (.mapping m) => some (m.entries.map fun (key, v) => (.text key, v))
    | _ => none
  | .defaultsOf number =>
    some ((s.defaultsAt number).entries.map fun (key, d) => (.text key, .text d.text))
  | _ => none

/-- Whether two things are equal. -/
def sameRef (s : State) (a b : Ref) : Bool :=
  a == b
    || match s.mappingOf? a, s.mappingOf? b with
      | some m, some n => (Value.map m).same (.map n)
      | _, _ =>
        match a, b with
        | .object m, .object n =>
          match s.objects[m]?, s.objects[n]? with
          | some x, some y => s.sameContent x y
          | _, _ => false
        | .originOf m, .originOf n => s.originAt m == s.originAt n
        | _, _ => false

/-- The name of the type of something. -/
def typeName (s : State) : Ref → String
  | .object number =>
    match s.objects[number]? with
    | some content => (s.instanceOf content).typeName
    | none => ""
  | .originOf _ => "str"
  | .defaultsOf _ => "mappingproxy"
  | .flag _ => "bool"
  | .nothing => "NoneType"

/-- The failure of looking for what something does not have. -/
def lacks (s : State) (ref : Ref) (name : String) : Failure :=
  .system "AttributeError" ("'" ++ s.typeName ref ++ "' object has no attribute '"
    ++ name ++ "'")

/-- A named policy and its number. `wanted` is what it is needed for. -/
def namedPolicy (s : State) (name wanted : String) :
    Except Failure (Nat × LivePolicy) := do
  match ← s.lookup name with
  | .object number =>
    match s.policyAt? number with
    | some p => .ok (number, p)
    | none => .error (s.lacks (.object number) wanted)
  | ref => .error (s.lacks ref wanted)

/-- Names an object and shows it. -/
def present (s : State) (name : Option String) (number : Nat) : State × Shown :=
  let s := s.bind name (.object number)
  (s, s.showRef (.object number))

/-- Reads a text into a new policy map; anything else stays what it is. -/
def parse (s : State) (name : Option String) (value : Value)
    (read : String → Except Failure PolicyMap) : Except Failure (State × Shown) := do
  match ← s.resolve value with
  | .text text =>
    let m ← read text
    let (s, number) := s.add (.policyMap m)
    .ok (s.present name number)
  | _ =>
    match s.reference? value with
    | some ref => .ok (s.bind name ref, s.showRef ref)
    | none => .ok (s, .nothing)

/-- Makes a record. -/
def make (s : State) (name : Option String) (model : Model) (fields : Value) :
    Except Failure (State × Shown) := do
  let known := s.registry
  match model with
  | .allowlist =>
    let a ← (Schema.allowlist known fields).mapError (.shape "AllowList")
    let (s, number) := s.add (.allowlist a)
    .ok (s.present name number)
  | .policyMap form =>
    let held ← (Schema.policyMap known form fields).mapError (.shape form.name)
    let (s, number) := s.keep held
    .ok (s.present name number)
  | .frameInfo =>
    let info ← (Schema.frameInfo known fields).mapError (.shape "FrameInfo")
    let (s, info) := s.keepFrame info
    let (s, number) := s.add (.frameInfo info)
    .ok (s.present name number)
  | .frameContext =>
    let (origin, held) ← (Schema.frameContext known fields).mapError (.shape "FrameContext")
    let (s, allow) := s.keep held
    let (s, number) := s.add (.frameContext origin allow)
    .ok (s.present name number)
  | .decision =>
    let d ← (Schema.decision known fields).mapError (.shape "PolicyDecision")
    let (s, number) := s.add (.decision d)
    .ok (s.present name number)
  | .scenario =>
    let c ← (Schema.scenario known fields).mapError (.shape "PolicyConfig")
    let (s, frame) := match c.frame with
      | none => (s, none)
      | some info =>
        let (s, info) := s.keepFrame info
        (s, some info)
    let (s, number) := s.add
      (.scenario { origin := c.origin, header := c.header, defaults := c.defaults, frame })
    .ok (s.present name number)
  | .page =>
    let p ← (Schema.page known fields).mapError (.shape "FetchedPolicy")
    let (s, number) := s.add (.page p)
    .ok (s.present name number)

/-- Resolves the keywords of a policy map. A resolved map stays what it is. -/
def normalize (s : State) (name : Option String) (of : String) (page src : Value) :
    Except Failure (State × Shown) := do
  let ref ← s.lookup of
  let page ← s.resolve page
  let src ← s.resolve src
  match ref with
  | .object number =>
    match s.objects[number]? with
    | some (.policyMap m) =>
      let src := match src with
        | .text src => some src
        | _ => none
      let resolved ← (m.normalize page.plain src).mapError (·.failure "NormalizedPolicy" [])
      match m.form with
      | .normalized => .ok (s.present name number)
      | .parsed =>
        let (s, number) := s.add (.policyMap resolved)
        .ok (s.present name number)
    | _ => .error (s.lacks ref "features")
  | ref => .error (s.lacks ref "features")

/-- Builds a policy. -/
def build (s : State) (name : Option String) (origin header defaults frame : Value) :
    Except Failure (State × Shown) := do
  let p ← Arguments.policy s.registry origin header defaults frame
  let (s, number) := s.keepPolicy p
  .ok (s.present name number)

/-- Looks at a property of a policy. Maps are copied. -/
def property (s : State) (name : Option String) (number : Nat) (p : LivePolicy) :
    Property → State × Shown
  | .header =>
    let (s, copy) := s.add (.policyMap (s.mapAt p.header))
    s.present name copy
  | .frame =>
    match p.frame with
    | none => (s.bind name .nothing, .nothing)
    | some (origin, allow) =>
      let (s, copy) := s.add (.policyMap (s.mapAt allow))
      let (s, context) := s.add (.frameContext origin copy)
      s.present name context
  | .defaults => (s.bind name (.defaultsOf number), s.showRef (.defaultsOf number))
  | .origin => (s.bind name (.originOf number), .text p.page)
  | .isFrame => (s.bind name (.flag p.frame.isSome), .flag p.frame.isSome)

/-- Sets an entry of a policy map in place. Keywords are not looked for. -/
def setGrant (s : State) (number : Nat) (key : String) (value : Value) :
    Except Failure State := do
  let a ← (Schema.allowlist s.registry value).mapError (.shape "AllowList")
  let m := s.mapAt number
  .ok (s.set number (.policyMap { m with grants := m.grants.insert key a }))

/-- The failure of setting an entry of something that has none. -/
def refusesEntries (s : State) (ref : Ref) : Failure :=
  .system "TypeError" ("'" ++ s.typeName ref ++ "' object does not support item assignment")

/-- Sets an entry in place. -/
def setEntry (s : State) (of key : String) (value : Value) :
    Except Failure (State × Shown) := do
  let ref ← s.lookup of
  let value ← s.resolve value
  match ref with
  | .object number =>
    match s.objects[number]? with
    | some (.mapping m) =>
      let s := s.set number (.mapping (m.insert key value))
      .ok (s, s.showRef ref)
    | some (.policyMap _) =>
      let s ← s.setGrant number key value
      .ok (s, s.showRef ref)
    | some (.frameContext _ allow) =>
      let s ← s.setGrant allow key value
      .ok (s, s.showRef ref)
    | _ => .error (s.lacks ref "features")
  | ref => .error (s.refusesEntries ref)

/-- The failure of assigning to a field, which no object allows. -/
def assignment (s : State) (ref : Ref) (field : String) : Failure :=
  match ref with
  | .object number =>
    match s.objects[number]? with
    | some (.mapping _) | none => s.lacks ref field
    | some (.policy _) =>
      .system "AttributeError" ("property '" ++ field
        ++ "' of 'PermissionsPolicy' object has no setter")
    | some content =>
      .shape (s.instanceOf content).typeName [{ path := [.name field], flaw := .frozen }]
  | ref => s.lacks ref field

/-- Whether something contains a key. -/
def containsKey (s : State) (ref : Ref) (key : String) : Except Failure Bool :=
  match s.mappingOf? ref with
  | some entries => .ok (Schema.field? key entries).isSome
  | none =>
    match ref with
    | .object number =>
      match s.objects[number]? with
      | some (.policyMap m) => .ok (m.grants.contains key)
      | _ =>
        .error (.system "TypeError" ("argument of type '" ++ s.typeName ref
          ++ "' is not iterable"))
    | ref =>
      .error (.system "TypeError" ("argument of type '" ++ s.typeName ref
        ++ "' is not iterable"))

/-- What a step does. -/
def perform (s : State) : Step → Except Failure (State × Shown)
  | .letMapping name value => do
    let value ← s.resolve value
    let entries := match value with
      | .map entries => entries.map fun (key, v) => (key.plain, v)
      | _ => []
    let (s, number) := s.add (.mapping (.ofList entries))
    .ok (s.present name number)
  | .parseHeader name value =>
    s.parse name value fun text => (Header.parse text).mapError (·.failure text)
  | .parseAllow name value => s.parse name value fun text => .ok (AllowAttribute.parse text)
  | .make name model fields => do
    let fields ← s.resolve fields
    s.make name model fields
  | .normalize name of page src => s.normalize name of page src
  | .policy name origin header defaults frame => do
    let origin ← s.resolve origin
    let header ← s.resolve header
    let defaults ← s.resolve defaults
    let frame ← s.resolve frame
    s.build name origin header defaults frame
  | .inherit name of frame => do
    let (_, p) ← s.namedPolicy of "inherit"
    let frame ← s.resolve frame
    s.build name (.text p.page) (.object p.header "")
      (.map (p.defaults.entries.map fun (key, d) => (.text key, .text d.text))) frame
  | .get name of wanted => do
    let (number, p) ← s.namedPolicy of "header"
    .ok (s.property name number p wanted)
  | .look of => do
    let ref ← s.lookup of
    .ok (s, s.showRef ref)
  | .same a b => do
    let a ← s.lookup a
    let b ← s.lookup b
    .ok (s, .comparison (a == b) (s.sameRef a b))
  | .contains of feature => do
    let ref ← s.lookup of
    let found ← s.containsKey ref feature
    .ok (s, .contains found)
  | .evaluate of feature origin => do
    let (_, p) ← s.namedPolicy of "evaluate"
    let origin ← s.resolve origin
    .ok (s, .decision ((s.snapshot p).evaluate feature origin).decision)
  | .allows of feature origin => do
    let (_, p) ← s.namedPolicy of "allows_feature"
    let origin ← s.resolve origin
    .ok (s, .allowed ((s.snapshot p).allows feature origin))
  | .features of => do
    let (_, p) ← s.namedPolicy of "features"
    .ok (s, .features (s.snapshot p).features)
  | .allowedFeatures of origin => do
    let (_, p) ← s.namedPolicy of "allowed_features"
    let origin ← s.resolve origin
    .ok (s, .features ((s.snapshot p).allowedFeatures origin))
  | .set of key value => s.setEntry of key value
  | .assign of field => do
    let ref ← s.lookup of
    .error (s.assignment ref field)

/-- A step and its answer. One that fails changes nothing. -/
def step (s : State) (step : Step) : State × Except Failure Shown :=
  match s.perform step with
  | .ok (next, shown) => (next, .ok shown)
  | .error failure => (s, .error failure)

/-- The answers of steps, one after the other. -/
def run (s : State) : List Step → List (Except Failure Shown)
  | [] => []
  | step :: rest =>
    let (next, answer) := s.step step
    answer :: next.run rest

end State

end FeatureGrant.Session
