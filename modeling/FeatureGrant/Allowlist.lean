import FeatureGrant.SortedSet

/-!
# Allowlists

Which origins may use a feature: all, none, or those of a set.  Before
resolution a set may also hold keywords that stand for an origin.
-/

namespace FeatureGrant

/-- A word that stands for an origin, or for none. -/
inductive Keyword
  | self
  | src
  | none
  deriving DecidableEq, Repr

/-- How a keyword is written in a set. -/
def Keyword.text : Keyword → String
  | self => "'self'"
  | src => "'src'"
  | none => "'none'"

/-- Whether a text is a keyword. -/
def isKeyword (s : String) : Bool :=
  s == Keyword.self.text || s == Keyword.src.text || s == Keyword.none.text

/-- The origins that may use a feature. -/
inductive Allowlist
  | wildcard
  | deny
  | origins (members : SortedSet)
  deriving DecidableEq

namespace Allowlist

instance : Inhabited Allowlist := ⟨deny⟩

/-- The allowlist of the origins in a list. -/
def ofList (members : List String) : Allowlist := origins (SortedSet.ofList members)

/-- The listed origins. -/
def members : Allowlist → SortedSet
  | wildcard | deny => ∅
  | origins set => set

/-- Whether a keyword is left among the members. -/
def hasKeywords (a : Allowlist) : Bool := a.members.toList.any isKeyword

/-- Whether an origin may use the feature, by plain membership. -/
def allows (a : Allowlist) (origin : String) : Bool :=
  match a with
  | wildcard => true
  | deny => false
  | origins set => decide (origin ∈ set)

/-- The name of the kind of allowlist. -/
def kind : Allowlist → String
  | wildcard => "*"
  | deny => "none"
  | origins _ => "origins"

/-- An allowlist in one line. -/
def text : Allowlist → String
  | wildcard => "*"
  | deny => "none"
  | origins set => "(" ++ " ".intercalate set.toList ++ ")"

end Allowlist

end FeatureGrant
