import FeatureGrant.Host.Address
import FeatureGrant.Text.CodePoint
import FeatureGrant.Text.LowerCase
import FeatureGrant.Text.Quoted

/-!
# The head of a URL

Reads what stands before the path of a URL: the scheme, and from the authority
the host and the text of the port.  Control characters and spaces before the
URL, and tabs and line breaks anywhere, are ignored.
-/

namespace FeatureGrant.Url

open FeatureGrant.Host FeatureGrant.Text

/-- Why the head of a URL cannot be read. -/
inductive HeadFault
  | brackets
  | futureAddress
  | notAnAddress (host : List Char)
  | fourPartInBrackets
  | hiddenDelimiter (authority : List Char)
  | portDigits (port : List Char)
  | portLength (digits : Nat)
  | portRange
  deriving DecidableEq, Repr

/-- The scheme, host and port of a URL as they are written, but for the case
of the first two. The scheme and the host are empty where they are missing. -/
structure Head where
  scheme : List Char
  host : List Char
  port : List Char
  deriving DecidableEq, Repr

/-- Characters that a scheme may hold behind its first letter. -/
def isSchemeChar (c : Char) : Bool :=
  c.isAlphanum || c == '+' || c == '-' || c == '.'

/-- What a text is but for the control characters and spaces before it and the
tabs and line breaks in it. -/
def clean (s : List Char) : List Char :=
  (s.dropWhile (·.toNat ≤ 0x20)).filter fun c =>
    c != '\t' && c != '\r' && c != '\n'

/-- Splits at the first `c`; the second part is missing without one. -/
def cut (c : Char) (s : List Char) : List Char × Option (List Char) :=
  match s.dropWhile (· != c) with
  | [] => (s, none)
  | _ :: rest => (s.takeWhile (· != c), some rest)

/-- The part behind the last `c`, or all of it. -/
def behindLast (c : Char) (s : List Char) : List Char :=
  (s.reverse.takeWhile (· != c)).reverse

/-- The scheme and what follows its colon. -/
def splitScheme (s : List Char) : List Char × List Char :=
  match cut ':' s with
  | (c :: scheme, some rest) =>
    if c.isAlpha && scheme.all isSchemeChar then
      ((c :: scheme).map Char.toLower, rest)
    else ([], s)
  | _ => ([], s)

/-- The authority behind a doubled slash, up to the path, the query or the
fragment. -/
def authority : List Char → List Char
  | '/' :: '/' :: rest =>
    rest.takeWhile fun c => c != '/' && c != '?' && c != '#'
  | _ => []

/-- A host in brackets is an address of a future version or an eight-part
one. -/
def checkAddress (host : List Char) : Except HeadFault Unit :=
  if host.head? == some 'v' then
    if isFutureAddress host then .ok () else .error .futureAddress
  else if isIp4 host then .error .fourPartInBrackets
  else if isIp6 host then .ok ()
  else .error (.notAnAddress host)

/-- Brackets come in pairs, and what they hold is an address that starts the
host and is followed by nothing but a port. -/
def checkBrackets (auth : List Char) : Except HeadFault Unit :=
  match auth.contains '[', auth.contains ']' with
  | false, false => .ok ()
  | true, true =>
    let place := behindLast '@' auth
    match cut '[' place with
    | (_ :: _, some _) => .error .brackets
    | ([], some inner) =>
      match cut ']' inner with
      | (host, some (c :: _)) =>
        if c == ':' then checkAddress host else .error .brackets
      | (host, _) => checkAddress host
    | (_, none) => checkAddress (cut ':' place).1
  | _, _ => .error .brackets

/-- Characters whose compatibility form holds one of `/`, `?`, `#`, `@` and
`:`. -/
def delimiterLike : Intervals where
  toList :=
    [(0x2047, 0x2049), (0x2100, 0x2101), (0x2105, 0x2106), (0x2A74, 0x2A74),
     (0xFE13, 0xFE13), (0xFE16, 0xFE16), (0xFE55, 0xFE56), (0xFE5F, 0xFE5F),
     (0xFE6B, 0xFE6B), (0xFF03, 0xFF03), (0xFF0F, 0xFF0F), (0xFF1A, 0xFF1A),
     (0xFF1F, 0xFF20)]

/-- The host and port in an authority, behind any user name. A bracketed host
runs to the closing bracket, another to the first colon. -/
def hostAndPort (auth : List Char) : List Char × List Char :=
  let place := behindLast '@' auth
  match cut '[' place with
  | (_, some inner) =>
    let (host, tail) := cut ']' inner
    (host, ((cut ':' (tail.getD [])).2).getD [])
  | (_, none) =>
    let (host, port) := cut ':' place
    (host, port.getD [])

/-- Lower-cases a host up to its zone. -/
def lowerHost (host : List Char) : List Char :=
  let (name, zone) := cut '%' host
  lower name ++ (match zone with | some z => '%' :: z | none => [])

/-- Reads the head of a URL. -/
def Head.read (s : List Char) : Except HeadFault Head := do
  let (scheme, rest) := splitScheme (clean s)
  let auth := authority rest
  checkBrackets auth
  if auth.any delimiterLike.has then .error (.hiddenDelimiter auth)
  let (host, port) := hostAndPort auth
  .ok { scheme, host := lowerHost host, port }

/-- The port as a number, if one is written. -/
def Head.portNumber (h : Head) : Except HeadFault (Option Nat) :=
  if h.port.isEmpty then .ok none
  else if !(h.port.all (·.isDigit)) then .error (.portDigits h.port)
  else if 4300 < h.port.length then .error (.portLength h.port.length)
  else
    let n := Nat.ofDigitChars 10 h.port 0
    if 65535 < n then .error .portRange else .ok (some n)

/-- The fault in words. -/
def HeadFault.message : HeadFault → String
  | .brackets => "Invalid IPv6 URL"
  | .futureAddress => "IPvFuture address is invalid"
  | .notAnAddress host =>
    quote (String.ofList host) ++ " does not appear to be an IPv4 or IPv6 address"
  | .fourPartInBrackets => "An IPv4 address cannot be in brackets"
  | .hiddenDelimiter auth =>
    "netloc '" ++ String.ofList auth
      ++ "' contains invalid characters under NFKC normalization"
  | .portDigits port =>
    "Port could not be cast to integer value as " ++ quote (String.ofList port)
  | .portLength digits =>
    "Exceeds the limit (4300 digits) for integer string conversion: value has "
      ++ toString digits
      ++ " digits; use sys.set_int_max_str_digits() to increase the limit"
  | .portRange => "Port out of range 0-65535"

end FeatureGrant.Url
