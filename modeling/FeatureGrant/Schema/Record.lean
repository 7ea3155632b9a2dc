import FeatureGrant.OrderedMap
import FeatureGrant.Schema.Scalar
import FeatureGrant.SortedSet

/-!
# Checking records, maps and sets

A record has a fixed list of fields, some of which may be left out; anything
else in it is a violation.
-/

namespace FeatureGrant.Schema

/-- The value of a field. -/
def field? (name : String) (entries : List (Value × Value)) : Option Value :=
  (entries.find? fun entry => match entry.1 with
    | .text key => key == name
    | _ => false).map Prod.snd

/-- A field that must be there. -/
def required {α : Type} (name : String) (check : Value → Checked α)
    (entries : List (Value × Value)) : Checked α :=
  under name (match field? name entries with
    | some v => check v
    | none => flawed .missing)

/-- A field that may be left out. -/
def optional {α : Type} (name : String) (absent : α) (check : Value → Checked α)
    (entries : List (Value × Value)) : Checked α :=
  match field? name entries with
  | some v => under name (check v)
  | none => .ok absent

/-- The entries that are none of the fields. -/
def extras (names : List String) (entries : List (Value × Value)) : Checked Unit :=
  match entries.filterMap fun (key, _) =>
    match key with
    | .text name =>
      if names.contains name then none
      else some { path := [.name name], flaw := .extra }
    | key => some { path := [keyStep key], flaw := .keyNotText } with
  | [] => .ok ()
  | violations => .error violations

/-- A map from texts to checked values. A key that is no text is a violation
of its own. -/
def mapOf {α : Type} (check : Value → Checked α) (entries : List (Value × Value)) :
    Checked (OrderedMap α) :=
  (sequence (entries.map fun (key, value) =>
    both (atStep (keyStep key) (under "[key]" (text key)))
      (atStep (keyStep key) (check value)))).map OrderedMap.ofList

/-- The items of a list with their indices. -/
def indexed (items : List Value) : List (Nat × Value) :=
  (List.range items.length).zip items

/-- A set of texts. -/
def textSet (v : Value) : Checked SortedSet :=
  let check := fun items =>
    (sequence ((indexed items).map fun (i, item) =>
      atStep (.index i) (text item))).map SortedSet.ofList
  match v with
  | .list items | .set items => check items
  | .pair first second => check [first, second]
  | _ => flawed .notSet

end FeatureGrant.Schema
