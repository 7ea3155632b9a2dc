import FeatureGrant.Field.Scalar
import FeatureGrant.Origin
import FeatureGrant.PolicyMap
import FeatureGrant.Text.Blank

/-!
# Written policies

How a map from features to allowlists is written as the value of a header and
as an allow attribute, and which maps can be written so.  The members of a set
may be listed in any order, and more than once.
-/

namespace FeatureGrant

open FeatureGrant.Field FeatureGrant.Text

/-- An allowlist as it is written: the members of a set one after the other. -/
inductive Listing
  | wildcard
  | deny
  | members (texts : List String)

/-- The allowlist that is written. -/
def Listing.allowlist : Listing → Allowlist
  | wildcard => .wildcard
  | deny => .deny
  | members texts => .ofList texts

/-! ## Headers -/

/-- Whether a text is a key of a dictionary. -/
def isKey (s : List Char) : Bool :=
  match s with
  | [] => false
  | c :: rest => isKeyStart c && rest.all isKeyChar

namespace Header

/-- A character in a text that is put in quotation marks. -/
def escape (c : Char) : List Char :=
  if c = '"' ∨ c = '\\' then ['\\', c] else [c]

/-- A text in quotation marks. -/
def quoted (text : String) : String :=
  "\"" ++ String.ofList (text.toList.flatMap escape) ++ "\""

/-- A member of a set: the page by a token, an origin by a text. -/
def item (text : String) : String :=
  if text = Keyword.self.text then "self" else quoted text

/-- The member of a dictionary that gives an allowlist to a feature. -/
def member (feature : String) : Listing → String
  | .wildcard => feature ++ "=*"
  | .deny => feature ++ "=()"
  | .members texts => feature ++ "=(" ++ " ".intercalate (texts.map item) ++ ")"

/-- The value of the header that gives their allowlists to the features. -/
def write (listings : OrderedMap Listing) : String :=
  ", ".intercalate (listings.entries.map fun entry => member entry.1 entry.2)

/-- Whether a text can be a member of a set in a header: the page or the text
of an origin. -/
def CanList (text : String) : Prop :=
  text = Keyword.self.text ∨
    (canonical? text = some text ∧ text.toList.all isVisible = true)

instance (text : String) : Decidable (CanList text) :=
  inferInstanceAs (Decidable (_ ∨ _ ∧ _))

/-- Whether an allowlist can be written in a header, where a set has at least
one member. -/
def CanWrite : Listing → Prop
  | .wildcard | .deny => True
  | .members texts => texts ≠ [] ∧ ∀ text ∈ texts, CanList text

instance (listing : Listing) : Decidable (CanWrite listing) :=
  match listing with
  | .wildcard | .deny => .isTrue trivial
  | .members texts =>
    inferInstanceAs (Decidable (texts ≠ [] ∧ ∀ text ∈ texts, CanList text))

end Header

/-! ## Allow attributes -/

/-- Whether a text is one word and ends no directive. -/
def isDirectiveWord (s : List Char) : Bool :=
  !s.isEmpty && s.all fun c => !isBlank c && c != ';'

namespace AllowAttribute

/-- The targets that give an allowlist. -/
def targets : Listing → List String
  | .wildcard => ["*"]
  | .deny => [Keyword.none.text]
  | .members texts => texts

/-- The directive that gives an allowlist to a feature. -/
def directive (feature : String) (listing : Listing) : String :=
  " ".intercalate (feature :: targets listing)

/-- The attribute that gives their allowlists to the features. -/
def write (listings : OrderedMap Listing) : String :=
  "; ".intercalate (listings.entries.map fun entry => directive entry.1 entry.2)

/-- Whether a text can be a member of a set in an attribute: the page, the
frame or the text of an origin. -/
def CanList (text : String) : Prop :=
  text = Keyword.self.text ∨ text = Keyword.src.text ∨
    (canonical? text = some text ∧ isDirectiveWord text.toList = true)

instance (text : String) : Decidable (CanList text) :=
  inferInstanceAs (Decidable (_ ∨ _ ∨ _ ∧ _))

/-- Whether an allowlist can be written in an attribute. -/
def CanWrite : Listing → Prop
  | .wildcard | .deny => True
  | .members texts => ∀ text ∈ texts, CanList text

instance (listing : Listing) : Decidable (CanWrite listing) :=
  match listing with
  | .wildcard | .deny => .isTrue trivial
  | .members texts =>
    inferInstanceAs (Decidable (∀ text ∈ texts, CanList text))

end AllowAttribute

end FeatureGrant
