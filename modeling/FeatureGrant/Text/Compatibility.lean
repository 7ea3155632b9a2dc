import FeatureGrant.Text.Decomposition
import FeatureGrant.Text.CombiningClass
import FeatureGrant.Text.Composition

/-!
# Compatibility form

Normalization form KC: every character is replaced by its compatibility
decomposition, marks after a letter are put in the order of their classes, and
letters are composed again with the marks that are not blocked.
-/

namespace FeatureGrant.Text

/-- Puts a character before ordered text: a mark moves behind marks of lower
class. -/
def insertMark (c : Char) : List Char → List Char
  | [] => [c]
  | d :: rest =>
    if combiningClass d != 0 && combiningClass d < combiningClass c then
      d :: insertMark c rest
    else c :: d :: rest

/-- Orders every run of marks by class, equal classes keeping their order. -/
def orderMarks (s : List Char) : List Char := s.foldr insertMark []

/-- Composes text behind `letter`, the marks between that were not taken being
`kept` in reverse with `highest` the class of the last. A mark is blocked by a
kept one of its own class, a letter by any. -/
def composeBehind (letter : Char) (kept : List Char) (highest : Nat) :
    List Char → List Char
  | [] => letter :: kept.reverse
  | c :: rest =>
    let k := combiningClass c
    let blocked := !kept.isEmpty && (k == 0 || k ≤ highest)
    match if blocked then none else composePair? letter c with
    | some made => composeBehind made kept highest rest
    | none =>
      if k == 0 then letter :: kept.reverse ++ composeBehind c [] 0 rest
      else if blocked then composeBehind letter (c :: kept) highest rest
      else composeBehind letter (c :: kept) k rest

/-- Composes ordered text. -/
def compose : List Char → List Char
  | [] => []
  | c :: rest => composeBehind c [] 0 rest

/-- Normalization form KC. -/
def compatibilityForm (s : List Char) : List Char :=
  compose (orderMarks (s.flatMap decompose))

end FeatureGrant.Text
