/-!
# YAML tokens

The parts of a YAML text.  Indentation is turned into tokens that start and
end a collection, and a key has a token before it.
-/

namespace FeatureGrant.Yaml

/-- The text of a scalar. It is not well formed if it holds half of a
character, which is then replaced. -/
structure ScalarText where
  chars : List Char
  wellFormed : Bool
  deriving DecidableEq, Repr

/-- A tag as it is written: a handle, unless it is verbatim, and a suffix. -/
structure TagText where
  handle : Option String
  suffix : String
  deriving DecidableEq, Repr

/-- A directive: the version of the language, a handle for tags, or another
one, which is ignored. -/
inductive Directive
  | version (major minor : Nat)
  | tag (handle text : String)
  | other
  deriving DecidableEq, Repr

/-- A part of a YAML text. -/
inductive Token
  | streamEnd
  | directive (value : Directive)
  | documentStart
  | documentEnd
  | blockSequenceStart
  | blockMappingStart
  | blockEnd
  | flowSequenceStart
  | flowSequenceEnd
  | flowMappingStart
  | flowMappingEnd
  | blockEntry
  | flowEntry
  | key
  | value
  | aliasOf (name : String)
  | anchor (name : String)
  | tag (value : TagText)
  | scalar (text : ScalarText) (plain : Bool)
  deriving DecidableEq, Repr

end FeatureGrant.Yaml
