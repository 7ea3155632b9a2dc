import FeatureGrant.PolicyMap

/-!
# Resolution of keywords

Replaces the keywords in a policy map by the origins they stand for: `'self'`
by the page, `'src'` by the frame, and `'none'` by no origin at all.  A map
without unresolved keywords is the result; one that is resolved stays as it
is.
-/

namespace FeatureGrant

namespace SortedSet

/-- Replaces a member by another text, if it is there. -/
def replace (s : SortedSet) (old : String) (new : Option String) : SortedSet :=
  if old ∈ s then
    match new with
    | some x => (s.erase old).insert x
    | none => s.erase old
  else s

end SortedSet

/-- The frame that keywords refer to. An empty text names no frame. -/
def namedFrame (src : Option String) : Option String := src.filter (· ≠ "")

/-- Replaces the keywords of an allowlist. A list without members stands for
the frame, if there is one. -/
def Allowlist.resolve (page : String) (src : Option String) : Allowlist → Allowlist
  | wildcard => wildcard
  | deny => deny
  | origins members =>
    match members.isEmpty, namedFrame src with
    | true, some frame => .ofList [frame]
    | _, frame =>
      if Keyword.none.text ∈ members then origins ∅
      else
        origins ((members.replace Keyword.self.text (some page)).replace
          Keyword.src.text frame)

/-- Replaces the keywords of every allowlist. -/
def Grants.resolve (page : String) (src : Option String) (grants : Grants) : Grants :=
  grants.map (Allowlist.resolve page src)

/-- A feature whose allowlist still holds a keyword. -/
structure UnresolvedKeyword where
  feature : String
  deriving DecidableEq, Repr

/-- A map of normalized form, if no keyword is left in it. -/
def PolicyMap.normalized (grants : Grants) : Except UnresolvedKeyword PolicyMap :=
  match firstUnresolved? grants with
  | some feature => .error ⟨feature⟩
  | none => .ok { form := .normalized, grants }

/-- Brings a map into normalized form. -/
def PolicyMap.normalize (page : String) (src : Option String) (m : PolicyMap) :
    Except UnresolvedKeyword PolicyMap :=
  match m.form with
  | .normalized => .ok m
  | .parsed => normalized (m.grants.resolve page src)

end FeatureGrant
