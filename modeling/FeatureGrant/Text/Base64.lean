/-!
# Base 64

Reads groups of four characters that stand for three bytes.  Padding marks
count only behind at least two characters of a group, and only those behind
the last character; once they complete a group the rest is ignored.
-/

namespace FeatureGrant.Text

/-- The six bits that a character stands for. -/
def sextet? (c : Char) : Option Nat :=
  if 'A' ≤ c && c ≤ 'Z' then some (c.toNat - 65)
  else if 'a' ≤ c && c ≤ 'z' then some (c.toNat - 71)
  else if '0' ≤ c && c ≤ '9' then some (c.toNat + 4)
  else if c == '+' then some 62
  else if c == '/' then some 63
  else none

/-- The whole bytes in a group of up to four sextets. -/
def groupBytes : List Nat → List UInt8
  | [a, b] => [UInt8.ofNat (a * 4 + b / 16)]
  | [a, b, c] => [UInt8.ofNat (a * 4 + b / 16), UInt8.ofNat (b % 16 * 16 + c / 4)]
  | [a, b, c, d] =>
    [UInt8.ofNat (a * 4 + b / 16), UInt8.ofNat (b % 16 * 16 + c / 4),
     UInt8.ofNat (c % 4 * 64 + d)]
  | _ => []

/-- Why characters are no base 64 text. -/
inductive Base64Fault
  | loneCharacter
  | padding
  deriving DecidableEq, Repr

/-- Reads on with a group of sextets begun and `pads` marks behind it.
Characters of no meaning are skipped. -/
def decodeBase64From (group : List Nat) (pads : Nat) :
    List Char → Except Base64Fault (List UInt8)
  | [] =>
    match group with
    | [] => .ok []
    | [_] => .error .loneCharacter
    | _ => .error .padding
  | c :: rest =>
    if c == '=' then
      if group.length < 2 then decodeBase64From group pads rest
      else if 4 ≤ group.length + pads + 1 then .ok (groupBytes group)
      else decodeBase64From group (pads + 1) rest
    else
      match sextet? c with
      | none => decodeBase64From group pads rest
      | some n =>
        let group := group ++ [n]
        if group.length == 4 then do
          .ok (groupBytes group ++ (← decodeBase64From [] 0 rest))
        else decodeBase64From group 0 rest

/-- The bytes that a base 64 text stands for. -/
def decodeBase64 (s : List Char) : Except Base64Fault (List UInt8) :=
  decodeBase64From [] 0 s

end FeatureGrant.Text
