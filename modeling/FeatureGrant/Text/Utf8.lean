/-!
# UTF-8

Reads bytes as characters.  Only the shortest encoding of a character is
accepted, and surrogates have none.
-/

namespace FeatureGrant.Text

/-- Why bytes are no UTF-8 text: the place and the length of the first part
that is none, its first byte and what is wrong with it. -/
structure Utf8Fault where
  first : UInt8
  start : Nat
  length : Nat
  reason : String
  deriving DecidableEq, Repr

/-- How many bytes follow a first byte, and the least and greatest value of
the next one. -/
def leadingByte? (b : UInt8) : Option (Nat × UInt8 × UInt8) :=
  if b < 0x80 then some (0, 0, 0)
  else if b < 0xC2 then none
  else if b < 0xE0 then some (1, 0x80, 0xBF)
  else if b == 0xE0 then some (2, 0xA0, 0xBF)
  else if b == 0xED then some (2, 0x80, 0x9F)
  else if b < 0xF0 then some (2, 0x80, 0xBF)
  else if b == 0xF0 then some (3, 0x90, 0xBF)
  else if b < 0xF4 then some (3, 0x80, 0xBF)
  else if b == 0xF4 then some (3, 0x80, 0x8F)
  else none

/-- The bits of a first byte that is followed by `more` bytes. -/
def leadingBits (more : Nat) (b : UInt8) : Nat :=
  if more == 0 then b.toNat else b.toNat % Nat.pow 2 (6 - more)

/-- The following bytes of a character, of which `low` to `high` are fit to be
the next: the code point, or how many bytes were fit and whether another one
stands behind them. -/
def trailingBytes (value : Nat) (more : Nat) (low high : UInt8) (seen : Nat) :
    List UInt8 → Except (Nat × Bool) Nat
  | [] => if more == 0 then .ok value else .error (seen, false)
  | b :: rest =>
    match more with
    | 0 => .ok value
    | more + 1 =>
      if low ≤ b && b ≤ high then
        trailingBytes (value * 64 + b.toNat % 64) more 0x80 0xBF (seen + 1) rest
      else .error (seen, true)

/-- Reads bytes from the place `start` on, the first `skip` of which were
read. -/
def decodeUtf8From (start skip : Nat) : List UInt8 → Except Utf8Fault (List Char)
  | [] => .ok []
  | b :: rest =>
    match skip with
    | skip + 1 => decodeUtf8From (start + 1) skip rest
    | 0 =>
      match leadingByte? b with
      | none => .error ⟨b, start, 1, "invalid start byte"⟩
      | some (more, low, high) =>
        match trailingBytes (leadingBits more b) more low high 0 rest with
        | .error (seen, false) => .error ⟨b, start, seen + 1, "unexpected end of data"⟩
        | .error (seen, true) => .error ⟨b, start, seen + 1, "invalid continuation byte"⟩
        | .ok value => do
          let tail ← decodeUtf8From (start + 1) more rest
          .ok (Char.ofNat value :: tail)

/-- Reads bytes as characters, the first `skip` of which were read. Each
longest part that is none becomes a replacement character. -/
def decodeUtf8LossyFrom (skip : Nat) : List UInt8 → List Char
  | [] => []
  | b :: rest =>
    match skip with
    | skip + 1 => decodeUtf8LossyFrom skip rest
    | 0 =>
      match leadingByte? b with
      | none => Char.ofNat 0xFFFD :: decodeUtf8LossyFrom 0 rest
      | some (more, low, high) =>
        match trailingBytes (leadingBits more b) more low high 0 rest with
        | .error (seen, _) => Char.ofNat 0xFFFD :: decodeUtf8LossyFrom seen rest
        | .ok value => Char.ofNat value :: decodeUtf8LossyFrom more rest

/-- Reads bytes as characters, leaving none out. -/
def decodeUtf8Lossy (bytes : List UInt8) : List Char := decodeUtf8LossyFrom 0 bytes

/-- Reads bytes as characters. -/
def decodeUtf8 (bytes : List UInt8) : Except Utf8Fault (List Char) :=
  decodeUtf8From 0 0 bytes

end FeatureGrant.Text
