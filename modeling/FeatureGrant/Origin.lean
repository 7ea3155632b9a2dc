import FeatureGrant.Host.Name
import FeatureGrant.Text.Blank
import FeatureGrant.Url.Head

/-!
# Origins

The origin of a URL: its scheme, its host and, unless it is the one that the
scheme implies, its port.  Two URLs have the same origin exactly if the texts
of their origins are equal, which is what every comparison of this library
rests on.
-/

namespace FeatureGrant

open FeatureGrant.Host FeatureGrant.Text FeatureGrant.Url

/-- A host: one that holds a colon and therefore stands in brackets, or a
name. -/
inductive HostText
  | literal (text : List Char)
  | name (text : List Char)
  deriving DecidableEq, Repr

/-- The origin of a URL. The port is missing where it is the scheme's own. -/
structure Origin where
  scheme : List Char
  host : HostText
  port : Option Nat
  deriving DecidableEq, Repr

/-- Why a text has no origin. -/
inductive UrlFault
  | notText
  | empty
  | unreadable (fault : HeadFault)
  | noScheme
  | noHost
  | forbiddenCharacter
  | unusableName (fault : NameFault)
  deriving DecidableEq, Repr

/-- The port that a scheme implies. -/
def defaultPort (scheme : List Char) : Option Nat :=
  if scheme = "http".toList then some 80
  else if scheme = "https".toList then some 443
  else if scheme = "ws".toList then some 80
  else if scheme = "wss".toList then some 443
  else if scheme = "ftp".toList then some 21
  else none

/-- Characters that no host name may hold. -/
def isForbiddenInHost (c : Char) : Bool :=
  c.toNat ≤ 0x20 || "#%/:<>?@[\\]^|\x7f".toList.contains c

/-- Reads a host. A name is checked before it is brought into ASCII form. -/
def HostText.read (host : List Char) : Except UrlFault HostText :=
  if host.contains ':' then .ok (.literal host)
  else if host.any isForbiddenInHost then .error .forbiddenCharacter
  else if isAscii host then .ok (.name host)
  else
    match asciiName host with
    | .ok ascii => .ok (.name ascii)
    | .error fault => .error (.unusableName fault)

namespace Origin

/-- The origin of a URL, the path, query, fragment and user name of which do
not matter. -/
def read (url : List Char) : Except UrlFault Origin := do
  let text := trim url
  if text.isEmpty then .error .empty
  let head ← (Head.read text).mapError .unreadable
  let port ← head.portNumber.mapError .unreadable
  if head.scheme.isEmpty then .error .noScheme
  if head.host.isEmpty then .error .noHost
  let host ← HostText.read head.host
  .ok { scheme := head.scheme
        host
        port := if port = defaultPort head.scheme then none else port }

/-- The port in use: the written one, else the scheme's own. -/
def effectivePort (o : Origin) : Option Nat := o.port <|> defaultPort o.scheme

/-- The characters of an origin's text. -/
def chars (o : Origin) : List Char :=
  o.scheme ++ "://".toList
    ++ (match o.host with
        | .literal text => '[' :: text ++ [']']
        | .name text => text)
    ++ (match o.port with
        | none => []
        | some n => ':' :: Nat.toDigits 10 n)

/-- An origin as text. -/
def text (o : Origin) : String := String.ofList o.chars

end Origin

/-- The text of a URL's origin. -/
def canonicalize (url : String) : Except UrlFault String :=
  (Origin.read url.toList).map Origin.text

/-- The text of a URL's origin, if it has one. -/
def canonical? (url : String) : Option String := (canonicalize url).toOption

/-- The fault in words. -/
def UrlFault.reason : UrlFault → String
  | .notText => "not a string"
  | .empty => "empty"
  | .unreadable fault => fault.message
  | .noScheme => "missing scheme"
  | .noHost => "missing host"
  | .forbiddenCharacter => "forbidden character in host"
  | .unusableName fault =>
    "invalid host: encoding with 'idna' codec failed (UnicodeError: "
      ++ fault.message ++ ")"

end FeatureGrant
