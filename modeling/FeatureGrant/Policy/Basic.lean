import FeatureGrant.AllowAttribute
import FeatureGrant.Default
import FeatureGrant.Header
import FeatureGrant.Policy.Frame
import FeatureGrant.Resolution
import FeatureGrant.Value

/-!
# Policies

The policy of a page, or of a frame in it: the header of the page, the allow
attribute of the frame and the defaults, all with their keywords resolved.
Its parts are read one after the other, and the first part that cannot be read
is the fault.
-/

namespace FeatureGrant

/-- A value that is not the URL of an origin. -/
structure InvalidUrl where
  url : String
  fault : UrlFault
  deriving DecidableEq, Repr

/-- The text of the origin of a value that is meant as a URL. -/
def originOf : Value → Except InvalidUrl String
  | .text url => (canonicalize url).mapError fun fault => { url, fault }
  | value => .error { url := value.shown, fault := .notText }

/-- A default that is not one of the four. -/
structure InvalidDefault where
  feature : String
  value : Value

/-- The policy of a page, or of a frame in it. -/
structure Policy where
  page : String
  header : Grants
  defaults : OrderedMap Default
  frame : Option Frame
  deriving DecidableEq

/-- Why a policy cannot be built. -/
inductive BuildFault
  | pageUrl (fault : InvalidUrl)
  | header (value : String) (fault : HeaderFault)
  | headerKeyword (fault : UnresolvedKeyword)
  | default (fault : InvalidDefault)
  | frameUrl (fault : InvalidUrl)
  | allowKeyword (fault : UnresolvedKeyword)
  | frameKeyword (fault : UnresolvedKeyword)

namespace Policy

/-- The header of a page with its keywords resolved. -/
def readHeader (page : String) (header : Source PolicyMap) :
    Except BuildFault Grants := do
  let parsed ← match header with
    | .text value => (Header.parse value).mapError (.header value)
    | .map m => .ok m
  let resolved ← (parsed.normalize page none).mapError .headerKeyword
  .ok resolved.grants

/-- The defaults of the features. -/
def readDefaults (defaults : OrderedMap Value) :
    Except BuildFault (OrderedMap Default) :=
  defaults.traverse fun feature value =>
    match Default.ofValue? value with
    | some d => .ok d
    | none => .error (.default { feature, value })

/-- The policy of a page. -/
def ofPage (page : Value) (header : Source PolicyMap) (defaults : OrderedMap Value) :
    Except BuildFault Policy := do
  let page ← (originOf page).mapError .pageUrl
  let header ← readHeader page header
  let defaults ← readDefaults defaults
  .ok { page, header, defaults, frame := none }

/-- A frame of a page, its allow attribute resolved. A map that was resolved
before is refused if a keyword is in it. -/
def readFrame (page : String) (info : FrameInfo PolicyMap) :
    Except BuildFault Frame := do
  let origin ← (originOf (.text info.origin)).mapError .frameUrl
  let parsed := match info.allow with
    | .text value => AllowAttribute.parse value
    | .map m => m
  let resolved ← (parsed.normalize page (some origin)).mapError .allowKeyword
  let checked ← (PolicyMap.normalized resolved.grants).mapError .frameKeyword
  .ok { origin, allow := checked.grants }

/-- The policy of a frame in place of that of the page or of another frame. -/
def withFrame (p : Policy) (info : FrameInfo PolicyMap) : Except BuildFault Policy := do
  let frame ← readFrame p.page info
  .ok { p with frame := some frame }

/-- The policy of a page, or of a frame in it. -/
def build (page : Value) (header : Source PolicyMap) (defaults : OrderedMap Value)
    (frame : Option (FrameInfo PolicyMap)) : Except BuildFault Policy := do
  let p ← ofPage page header defaults
  match frame with
  | none => .ok p
  | some info => p.withFrame info

/-- The defaults of a policy as values. -/
def defaultValues (p : Policy) : OrderedMap Value := p.defaults.map fun d => .text d.text

/-- The policy of a frame in the page of `p`, built anew from the page's
origin, resolved header and defaults. -/
def inherit (p : Policy) (info : FrameInfo PolicyMap) : Except BuildFault Policy :=
  build (.text p.page) (.map { form := .normalized, grants := p.header })
    p.defaultValues (some info)

/-- All features that a policy knows, in ascending order. -/
def features (p : Policy) : List String :=
  (SortedSet.ofList (p.defaults.keys ++ p.header.keys
    ++ (p.frame.map (·.allow.keys)).getD [])).toList

/-- The origin that is checked if none is named: the frame's, or the page's. -/
def ownOrigin (p : Policy) : String := (p.frame.map (·.origin)).getD p.page

/-- A policy in one line. -/
def shown (p : Policy) : String :=
  "PermissionsPolicy(origin=" ++ Text.quote p.page
    ++ (match p.frame with
        | none => ""
        | some frame => ", frame=" ++ Text.quote frame.origin)
    ++ ")"

end Policy

end FeatureGrant
