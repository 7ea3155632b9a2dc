/-!
# Folders

The files that a command can see: a folder, what is in it, and how the name of
a file is resolved against it.
-/

namespace FeatureGrant.Command

/-- What a name stands for. -/
inductive Entry
  | folder
  | file (content : List UInt8)
  deriving DecidableEq, Repr

/-- A folder: the steps from the root to it, and what is in it by name. -/
structure Folder where
  path : List String
  entries : List (String × Entry)
  deriving DecidableEq, Repr

namespace Folder

/-- Follows the steps of a name from a place. -/
def walk (place : List String) : List String → List String
  | [] => place
  | step :: rest =>
    if step = "" || step = "." then walk place rest
    else if step = ".." then walk place.dropLast rest
    else walk (place ++ [step]) rest

/-- The steps from the root to the place that a name stands for. -/
def resolve (f : Folder) (name : String) : List String :=
  let steps := (name.toList.splitOn '/').map String.ofList
  walk (if name.startsWith "/" then [] else f.path) steps

/-- A place as text. -/
def placeText (place : List String) : String := "/" ++ "/".intercalate place

/-- What is at a place: an entry, or a folder on the way to one. -/
def entryAt (f : Folder) (place : List String) : Option Entry :=
  match f.entries.find? fun (name, _) => f.resolve name == place with
  | some (_, entry) => some entry
  | none =>
    if place.isPrefixOf f.path
        || f.entries.any fun (name, _) => place.isPrefixOf (f.resolve name) then
      some .folder
    else none

/-- The place that a name stands for, as text, and what is there. -/
def find? (f : Folder) (name : String) : Option (String × Entry) :=
  let place := f.resolve name
  (f.entryAt place).map fun entry => (placeText place, entry)

end Folder

end FeatureGrant.Command
