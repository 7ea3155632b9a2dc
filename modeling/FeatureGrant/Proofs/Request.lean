import FeatureGrant.Policy.Arguments

/-!
# Answering a request at once

Whether an origin may use a feature in a frame, as one function of the words in
which the header of the page and the allow attribute of the frame are written.
Nothing is resolved or kept on the way: the last member and the last directive
of the feature are looked up, and each of them is asked about the origin.
-/

namespace FeatureGrant

open FeatureGrant.Field FeatureGrant.Text

/-- Everything that a page and a frame in it are described by. -/
structure Request where
  url : String
  header : String
  defaults : OrderedMap Value
  frameUrl : String
  allow : String

namespace Request

/-- The policy of a request, the parts of which are given as values. -/
def policy (known : Registry) (r : Request) : Except Failure Policy :=
  Arguments.policy known (.text r.url) (.text r.header)
    (.map (r.defaults.entries.map fun entry => (.text entry.1, entry.2)))
    (.map [(.text "origin", .text r.frameUrl),
      (.text "allow", .text r.allow)])

/-! ## Words -/

/-- The members of a header in order. One of nothing but white space has
none. -/
def members (header : String) : List (String × Member) :=
  if header.toList.all isBlank then []
  else (readDictionary header.toList).getD []

/-- The directives of an allow attribute in order, each a feature and its
targets. -/
def directives (allow : String) : List (String × List String) :=
  (allow.toList.splitOn ';').filterMap fun directive =>
    match (words directive).map String.ofList with
    | [] => none
    | feature :: targets => some (feature, targets)

/-- The items of the last member that is named like the feature. -/
def items? (r : Request) (feature : String) : Option (List BareItem) :=
  ((members r.header).reverse.lookup feature).map Member.items

/-- The targets of the last directive that starts with the feature. -/
def targets? (r : Request) (feature : String) : Option (List String) :=
  (directives r.allow).reverse.lookup feature

/-- The default of a feature. -/
def default (r : Request) (feature : String) : Default :=
  ((r.defaults.get? feature).bind Default.ofValue?).getD .self

/-! ## What the words say about an origin -/

/-- Whether an item settles a member whatever else it holds. -/
def isFinal (item : BareItem) : Bool :=
  item.text? == some "*" || item.text? == some "none"

/-- Whether an item names an origin: by its URL, or as the page. -/
def itemNames (page checked : String) (item : BareItem) : Bool :=
  (item.text? == some "self" && page == checked)
    || item.text?.bind canonical? == some checked

/-- Whether the items of a member allow an origin. The first `*` or `none`
among them decides. -/
def itemsAllow (page checked : String) (items : List BareItem) : Bool :=
  match items.find? isFinal with
  | some item => item.text? == some "*"
  | none => items.any (itemNames page checked)

/-- The origin that a target names. -/
def targetOrigin? (page frame target : String) : Option String :=
  if target = Keyword.self.text then some page
  else if target = Keyword.src.text then some frame
  else canonical? target

/-- The origins that targets name. Where no target names one it is the
frame. -/
def namedOrigins (page frame : String) (targets : List String) : List String :=
  match targets.filterMap (targetOrigin? page frame) with
  | [] => [frame]
  | origins => origins

/-- Whether the targets of a directive allow an origin in the frame; without a
directive only the page itself is allowed in a frame of its own origin. -/
def targetsAllow (page frame checked : String) : Option (List String) → Bool
  | none => frame == page && checked == frame
  | some targets =>
    if "*" ∈ targets then checked == frame
    else if Keyword.none.text ∈ targets then false
    else
      decide (checked ∈ namedOrigins page frame targets)
        && decide (frame ∈ namedOrigins page frame targets)

/-- Whether a default allows an origin in the frame. -/
def defaultAllows (page frame checked : String) : Default → Bool
  | .none => false
  | .wildcard => frame == page
  | .src => checked == frame
  | .self => frame == page && checked == frame

/-- Whether an origin may use a feature, given the origins of the page and the
frame. Without an origin it is the frame that is asked about. -/
def answer (r : Request) (page frame feature origin : String) : Bool :=
  match if origin = "" then some frame else canonical? origin with
  | none => false
  | some checked =>
    match r.items? feature, r.targets? feature with
    | none, none => defaultAllows page frame checked (r.default feature)
    | items, targets =>
      items.all (itemsAllow page checked)
        && targetsAllow page frame checked targets

end Request

end FeatureGrant
