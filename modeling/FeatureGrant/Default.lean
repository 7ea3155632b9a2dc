import FeatureGrant.Allowlist
import FeatureGrant.Text.LowerCase
import FeatureGrant.Text.Blank
import FeatureGrant.Value

/-!
# Default allowlists

What holds for a feature that neither the header nor the allow attribute
mentions.  A default is written like the keyword it is, with or without
quotation marks; without them case and white space around it do not matter.
-/

namespace FeatureGrant

open FeatureGrant.Text

/-- The default allowlist of a feature. -/
inductive Default
  | wildcard
  | self
  | src
  | none
  deriving DecidableEq, Repr

namespace Default

/-- How a default is written. -/
def text : Default → String
  | wildcard => "*"
  | self => Keyword.self.text
  | src => Keyword.src.text
  | none => Keyword.none.text

/-- The name of a default. -/
def name : Default → String
  | wildcard => "WILDCARD"
  | self => "SELF"
  | src => "SRC"
  | none => "NONE"

/-- All defaults. -/
def all : List Default := [wildcard, self, src, none]

/-- Reads a default: its own text, or the bare keyword in any case. -/
def ofText? (s : String) : Option Default :=
  let bare := "'" ++ String.ofList (lower (trim s.toList)) ++ "'"
  all.find? (fun d => d.text = s) <|> all.find? (fun d => d.text = bare)

/-- Reads a default from a value. -/
def ofValue? : Value → Option Default
  | .text s => ofText? s
  | _ => Option.none

end Default

end FeatureGrant
