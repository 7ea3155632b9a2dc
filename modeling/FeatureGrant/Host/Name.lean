import FeatureGrant.Host.NameprepTables
import FeatureGrant.Host.Punycode
import FeatureGrant.Text.Ascii
import FeatureGrant.Text.Compatibility

/-!
# Host names

The ASCII form of a host name.  A name is split into labels at full stops of
any script; a label that is not ASCII is prepared (folded, normalized and
checked) and, if it is still not ASCII, encoded behind the marker `xn--`.
-/

namespace FeatureGrant.Host

open FeatureGrant.Text

/-- Why a host name has no ASCII form. -/
inductive NameFault
  | labelLength
  | prohibitedCharacter (c : Char)
  | mixedDirections
  | directionAtEnds
  | encodedMarker
  deriving DecidableEq, Repr

/-- A label may be 1 to 63 characters long. -/
def checkLength (label : List Char) : Except NameFault (List Char) :=
  if 0 < label.length && label.length < 64 then .ok label
  else .error .labelLength

/-- Folds and normalizes a label, and refuses prohibited characters and mixed
directions of writing. -/
def prepare (label : List Char) : Except NameFault (List Char) :=
  let folded := (label.filter fun c => !(dropped.has c)).flatMap fold
  let prepared := compatibilityForm folded
  match prepared.find? prohibited.has with
  | some c => .error (.prohibitedCharacter c)
  | none =>
    if prepared.any rightToLeft.has then
      if prepared.any leftToRight.has then .error .mixedDirections
      else if prepared.head?.any rightToLeft.has
          && prepared.getLast?.any rightToLeft.has then .ok prepared
      else .error .directionAtEnds
    else .ok prepared

/-- The ASCII form of a label. -/
def asciiLabel (label : List Char) : Except NameFault (List Char) :=
  if isAscii label then checkLength label
  else do
    let prepared ← prepare label
    if isAscii prepared then checkLength prepared
    else if ['x', 'n', '-', '-'].isPrefixOf prepared then
      .error .encodedMarker
    else checkLength (['x', 'n', '-', '-'] ++ Punycode.encode prepared)

/-- The full stops that end a label. -/
def isDot (c : Char) : Bool :=
  c == '.' || c.toNat == 0x3002 || c.toNat == 0xFF0E || c.toNat == 0xFF61

/-- The ASCII form of a host name that is not ASCII. One empty last label
stands for a full stop at the end. -/
def asciiName (name : List Char) : Except NameFault (List Char) := do
  let labels := name.splitOnP isDot
  let rooted := labels.getLast?.any (·.isEmpty)
  let labels := if rooted then labels.dropLast else labels
  let encoded ← labels.mapM asciiLabel
  .ok (['.'].intercalate encoded ++ (if rooted then ['.'] else []))

/-- The fault in words. -/
def NameFault.message : NameFault → String
  | .labelLength => "label empty or too long"
  | .prohibitedCharacter c => "Invalid character " ++ quote (String.ofList [c])
  | .mixedDirections => "Violation of BIDI requirement 2"
  | .directionAtEnds => "Violation of BIDI requirement 3"
  | .encodedMarker => "Label starts with ACE prefix"

end FeatureGrant.Host
