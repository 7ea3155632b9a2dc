/-!
# Numeric addresses

Recognizers for the textual forms of network addresses.  A four-part address
has four decimal numbers below 256 without leading zeros.  An eight-part
address has eight groups of up to four hexadecimal digits, of which a run may
be left out once behind a doubled colon, and of which the last two may be
written as a four-part address; it may carry a zone behind a percent sign.
-/

namespace FeatureGrant.Host

/-- Whether a character is a hexadecimal digit. -/
def isHexDigit (c : Char) : Bool :=
  c.isDigit || ('a' ≤ c && c ≤ 'f') || ('A' ≤ c && c ≤ 'F')

/-- A number below 256 without leading zeros. -/
def isByte (s : List Char) : Bool :=
  !s.isEmpty && s.length ≤ 3 && s.all (·.isDigit)
    && (s.length == 1 || s.head? != some '0') && Nat.ofDigitChars 10 s 0 < 256

/-- A four-part address. -/
def isIp4 (s : List Char) : Bool :=
  let parts := s.splitOn '.'
  parts.length == 4 && parts.all isByte

/-- One to four hexadecimal digits. -/
def isGroup (s : List Char) : Bool :=
  !s.isEmpty && s.length ≤ 4 && s.all isHexDigit

/-- How many groups a colon-separated list stands for, if all are well formed.
Only where `final` holds may the last be a four-part address. -/
def groupCount? (final : Bool) : List (List Char) → Option Nat
  | [] => some 0
  | [s] =>
    if isGroup s then some 1 else if final && isIp4 s then some 2 else none
  | s :: rest =>
    if isGroup s then (groupCount? final rest).map (· + 1) else none

/-- The groups in a stretch of an address, which may be empty. -/
def groups (s : List Char) : List (List Char) :=
  if s.isEmpty then [] else s.splitOn ':'

/-- What stands before the first doubled colon and behind it. -/
def splitDouble? : List Char → Option (List Char × List Char)
  | ':' :: ':' :: rest => some ([], rest)
  | c :: rest => (splitDouble? rest).map fun (a, b) => (c :: a, b)
  | [] => none

/-- An eight-part address without a zone. -/
def isIp6Groups (s : List Char) : Bool :=
  match splitDouble? s with
  | some (high, low) =>
    match groupCount? false (groups high), groupCount? true (groups low) with
    | some m, some n => m + n ≤ 7
    | _, _ => false
  | none => groupCount? true (groups s) == some 8

/-- An eight-part address, with or without a zone. A zone is not empty and
holds no further percent sign. -/
def isIp6 (s : List Char) : Bool :=
  match s.splitOn '%' with
  | [address] => isIp6Groups address
  | [address, zone] => isIp6Groups address && !zone.isEmpty
  | _ => false

/-- An address of a future version: `v`, hexadecimal digits, a full stop and
at least one more character. -/
def isFutureAddress (s : List Char) : Bool :=
  match s with
  | 'v' :: rest =>
    let version := rest.takeWhile isHexDigit
    let tail := rest.dropWhile isHexDigit
    !version.isEmpty && tail.head? == some '.' && 2 ≤ tail.length
  | _ => false

end FeatureGrant.Host
