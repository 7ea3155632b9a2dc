import FeatureGrant.Host.Registered
import FeatureGrant.Number.Numeral
import FeatureGrant.Text.Ascii
import FeatureGrant.Text.Percent
import FeatureGrant.Url.Parts

/-!
# URL references

URLs in the form in which they are requested: the scheme and the host in lower
case, the usual port of a scheme left out, paths without dot segments, and
characters that have no place in a part percent-encoded.
-/

namespace FeatureGrant.Url

open FeatureGrant.Host FeatureGrant.Text

/-- Why a text is no reference. -/
inductive ReferenceFault
  | tooLong
  | control (inFragment : Bool) (c : Char) (place : Nat)
  | port (text : List Char)
  | fourPart (host : List Char)
  | eightPart (host : List Char)
  | name (host : List Char)
  | unrootedPath
  | doubledSlash
  | leadingColon
  deriving DecidableEq, Repr

/-- A reference. A missing scheme, user or host is empty. -/
structure Reference where
  scheme : List Char
  user : List Char
  host : List Char
  port : Option Int
  path : List Char
  query : Option (List Char)
  fragment : Option (List Char)
  deriving DecidableEq, Repr

/-- Whether a character is printable ASCII and none of `excluded`. -/
def isPlain (excluded : String) (c : Char) : Bool :=
  0x20 < c.toNat && c.toNat < 0x7F && !excluded.toList.contains c

/-- Whether a fragment may hold a character. -/
def isFragmentChar (c : Char) : Bool := isPlain "\"<>\x60" c

/-- Whether a query may hold a character. -/
def isQueryChar (c : Char) : Bool := isPlain "\"#<>" c

/-- Whether a path may hold a character. -/
def isPathChar (c : Char) : Bool := isPlain "\"#<>?\x60\x7b\x7d" c

/-- Whether the part before the host may hold a character. -/
def isUserChar (c : Char) : Bool := isPathChar c && isPlain "/;=@[\\]^|" c

/-- Whether a host name may hold a character. -/
def isHostChar (c : Char) : Bool := "!$&'()*+,;=\"\x60\x7b\x7d%|\\".toList.contains c

/-- The user, the host and the text of the port in an authority. A host in
brackets runs to the last closing one, another to the first colon. -/
def cutPlace (authority : List Char) : List Char × List Char × List Char :=
  let place := behindLast '@' authority
  let user := authority.take (authority.length - place.length - 1)
  let size := place.length - (place.reverse.dropWhile (· != ']')).length
  let (host, tail) :=
    if place.head? == some '[' && place.contains ']' then
      (place.take (place.length - size), place.drop (place.length - size))
    else (place.takeWhile (· != ':'), place.dropWhile (· != ':'))
  (user, host, if tail.head? == some ':' then tail.tail else tail)

/-- Whether a host looks like a four-part address: four runs of digits with any
character between each two of them. The runs between other characters must have
room for the separators that these do not give. -/
def resemblesFourPart (host : List Char) : Bool :=
  let runs := host.splitOnP fun c => !c.isDigit
  let given := runs.length - 1
  runs.all (!·.isEmpty) && given ≤ 3
    && 3 ≤ runs.foldl (fun n run => n + (run.length - 1) / 2) given

/-- A host that holds a colon, in brackets. -/
def bracketed (host : List Char) : List Char :=
  if host.contains ':' then '[' :: host ++ [']'] else host

/-- The host in the form in which it is requested. -/
def normalHost (host : List Char) : Except ReferenceFault (List Char) :=
  if resemblesFourPart host then
    if isIp4 host then .ok host else .error (.fourPart host)
  else if host.head? == some '[' && host.getLast? == some ']' then
    let address := host.tail.dropLast
    if isIp6 address then .ok address else .error (.eightPart host)
  else if isAscii host then
    .ok (percentEncode isHostChar (host.map Char.toLower))
  else
    (registeredName host).mapError fun _ => .name host

/-- The usual port of a scheme. -/
def usualPort? (scheme : String) : Option Int :=
  if scheme = "https" || scheme = "wss" then some 443
  else if scheme = "http" || scheme = "ws" then some 80
  else if scheme = "ftp" then some 21
  else none

/-- A port, unless it is the usual one. -/
def unusual (scheme : List Char) (port : Option Int) : Option Int :=
  if port == usualPort? (String.ofList scheme) then none else port

/-- The port that is written, unless it is the usual one. -/
def normalPort (scheme port : List Char) : Except ReferenceFault (Option Int) :=
  if port.isEmpty then .ok none
  else
    match Number.wholeNumber? port with
    | some n => .ok (unusual scheme (some n))
    | none => .error (.port port)

/-- A path without dot segments. The first segment is never dropped with a
`..` if it is empty. -/
def foldPath (path : List Char) : List Char :=
  let step := fun (above : List (List Char)) (segment : List Char) =>
    if segment == ['.'] then above
    else if segment == ['.', '.'] then (if above == [[]] then above else above.tail)
    else segment :: above
  ['/'].intercalate ((path.splitOn '/').foldl step []).reverse

/-- The place of the first control character. -/
def checkControls (inFragment : Bool) (s : List Char) : Except ReferenceFault Unit :=
  match s.dropWhile fun c => !isAsciiControl c with
  | [] => .ok ()
  | c :: rest => .error (.control inFragment c (s.length - rest.length - 1))

namespace Reference

/-- Whether a reference names a host and how to reach it. -/
def isAbsolute (r : Reference) : Bool := !r.scheme.isEmpty && !r.host.isEmpty

/-- Whether anything stands in the place of the authority. -/
def hasAuthority (r : Reference) : Bool :=
  !r.user.isEmpty || !r.host.isEmpty || r.port.isSome

/-- A path follows an authority only with a slash; without scheme and authority
it starts with neither two slashes nor a colon. -/
def checkPath (r : Reference) : Except ReferenceFault Unit :=
  if r.hasAuthority then
    if r.path.isEmpty || r.path.head? == some '/' then .ok ()
    else .error .unrootedPath
  else if !r.scheme.isEmpty then .ok ()
  else if r.path.take 2 == ['/', '/'] then .error .doubledSlash
  else if r.path.head? == some ':' then .error .leadingColon
  else .ok ()

/-- A reference whose path, query and fragment are checked and normalized. -/
def normalize (r : Reference) : Except ReferenceFault Reference := do
  r.checkPath
  let path :=
    if !r.scheme.isEmpty || r.hasAuthority then foldPath r.path else r.path
  .ok { r with
    path := percentEncode isPathChar path
    query := r.query.map (percentEncode isQueryChar)
    fragment := r.fragment.map (percentEncode isFragmentChar) }

/-- Reads a reference. A colon at its start is skipped. -/
def read (s : List Char) : Except ReferenceFault Reference := do
  if 65536 < s.length then .error .tooLong
  checkControls false s
  let parts := Parts.read (if s.head? == some ':' then s.tail else s)
  let (user, host, port) := cutPlace (parts.authority.getD [])
  let host ← normalHost host
  let port ← normalPort parts.scheme port
  normalize
    { scheme := parts.scheme.map Char.toLower
      user := percentEncode isUserChar user
      host, port, path := parts.path, query := parts.query, fragment := parts.fragment }

/-- The host of a reference and its port, as they are sent with a request. -/
def place (r : Reference) : List Char :=
  bracketed r.host
    ++ (match r.port with
        | some n => ':' :: (toString n).toList
        | none => [])

/-- The authority of a reference. -/
def authority (r : Reference) : List Char :=
  (if r.user.isEmpty then [] else r.user ++ ['@']) ++ r.place

/-- A reference as text. -/
def text (r : Reference) : List Char :=
  let authority := r.authority
  Parts.text
    { scheme := r.scheme
      authority := if authority.isEmpty then none else some authority
      path := r.path, query := r.query, fragment := r.fragment }

/-- A reference at another host. -/
def withHost (r : Reference) (host : List Char) : Except ReferenceFault Reference := do
  let host ← normalHost (bracketed host)
  normalize { r with host, port := unusual r.scheme r.port }

/-- A reference with the fragment that another one has, in its decoded form. -/
def withFragment (r : Reference) (fragment : List Char) :
    Except ReferenceFault Reference := do
  let decoded := percentDecode fragment
  checkControls true decoded
  .ok { r with fragment := some (percentEncode isFragmentChar decoded) }

/-- The text of what the reference `target` means at `base`. -/
def join (base target : Reference) : Except HeadFault (List Char) := do
  if !target.text.isEmpty then
    let _ ← Head.read base.text
    let _ ← Head.read target.text
  .ok (resolve base.text target.text)

end Reference

/-- The fault in words. -/
def ReferenceFault.message : ReferenceFault → String
  | .tooLong => "URL too long"
  | .control inFragment c place =>
    "Invalid non-printable ASCII character in URL"
      ++ (if inFragment then " fragment component" else "") ++ ", "
      ++ quote (String.ofList [c]) ++ " at position " ++ toString place ++ "."
  | .port text => "Invalid port: " ++ quote (String.ofList text)
  | .fourPart host => "Invalid IPv4 address: " ++ quote (String.ofList host)
  | .eightPart host => "Invalid IPv6 address: " ++ quote (String.ofList host)
  | .name host => "Invalid IDNA hostname: " ++ quote (String.ofList host)
  | .unrootedPath => "For absolute URLs, path must be empty or begin with '/'"
  | .doubledSlash => "Relative URLs cannot have a path starting with '//'"
  | .leadingColon => "Relative URLs cannot have a path starting with ':'"

end FeatureGrant.Url
