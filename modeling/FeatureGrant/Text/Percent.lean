import FeatureGrant.Text.Quoted
import FeatureGrant.Text.Utf8

/-!
# Percent-encoding

A character that may not stand in some part of a URL is written as the bytes
of its UTF-8 form, each as a percent sign and two hexadecimal digits.
-/

namespace FeatureGrant.Text

/-- A percent sign and two digits for a byte. -/
def percentByte (b : UInt8) : List Char :=
  '%' :: (hexDigits 2 b.toNat).map Char.toUpper

/-- Whether a character stands for itself in every part of a URL. -/
def isUnreserved (c : Char) : Bool :=
  c.isAlphanum || c == '-' || c == '.' || c == '_' || c == '~'

/-- Encodes what is neither unreserved nor `safe`. -/
def percentEncode (safe : Char → Bool) (s : List Char) : List Char :=
  s.flatMap fun c =>
    if isUnreserved c || safe c then [c]
    else (String.utf8EncodeChar c).flatMap percentByte

/-- The value of a hexadecimal digit. -/
def hexDigit? (c : Char) : Option Nat :=
  if c.isDigit then some (c.toNat - 0x30)
  else if 'a' ≤ c && c ≤ 'f' then some (c.toNat - 0x57)
  else if 'A' ≤ c && c ≤ 'F' then some (c.toNat - 0x37)
  else none

/-- The bytes of a text in which every escape stands for its byte. -/
def percentBytes (s : List Char) : List UInt8 :=
  match s with
  | [] => []
  | '%' :: high :: low :: rest =>
    match hexDigit? high, hexDigit? low with
    | some h, some l => UInt8.ofNat (16 * h + l) :: percentBytes rest
    | _, _ => 0x25 :: percentBytes (high :: low :: rest)
  | c :: rest => String.utf8EncodeChar c ++ percentBytes rest
termination_by s.length

/-- Decodes a text; what is no character becomes a replacement character. -/
def percentDecode (s : List Char) : List Char := decodeUtf8Lossy (percentBytes s)

end FeatureGrant.Text
