import FeatureGrant.Fetch.Client
import FeatureGrant.Url.Reference

/-!
# Clients of the web

The client that follows redirects.  A URL is brought into the form in which it is
requested, and its host must be one that can be shown as well as sent.  A page
sends its readers elsewhere by a reference, which is resolved against the URL of
the page.
-/

namespace FeatureGrant.Fetch

open FeatureGrant.Host FeatureGrant.Text FeatureGrant.Url

/-- What goes wrong with the URLs of a client. -/
inductive WebFault
  | reference (fault : ReferenceFault)
  | location (fault : ReferenceFault)
  | join (fault : HeadFault)
  | name (refusal : NameRefusal)
  | foreignHost (run : ForeignRun)
  | unknownType (url : List Char)
  deriving DecidableEq, Repr

/-- The fault as an error. -/
def WebFault.mishap : WebFault → Mishap
  | reference e => ⟨"InvalidURL", e.message⟩
  | location e =>
    ⟨"RemoteProtocolError", "Invalid URL in location header: " ++ e.message ++ "."⟩
  | join e => ⟨"ValueError", e.message⟩
  | name e => ⟨e.kind, e.message⟩
  | foreignHost run => ⟨"UnicodeEncodeError", run.message⟩
  | unknownType url =>
    let shown := if url.getLast? == some '#' then url.dropLast else url
    ⟨"ValueError", "unknown url type: " ++ quote (String.ofList shown)⟩

/-- The host of a reference in the form in which it is shown. -/
def shownHost (r : Reference) : Except WebFault (List Char) :=
  if ['x', 'n', '-', '-'].isPrefixOf r.host then (shownName r.host).mapError .name
  else .ok r.host

/-- A reference to whose host a request can be sent: it can be shown, and is
ASCII. -/
def addressed (r : Reference) : Except WebFault Reference := do
  let _ ← shownHost r
  match foreignRun? r.place with
  | some run => .error (.foreignHost run)
  | none => .ok r

/-- A reference that is requested without a host names a path from the root. -/
def rooted (r : Reference) : Reference :=
  if r.isAbsolute then r
  else
    { scheme := [], user := [], host := [], port := none
      path := '/' :: r.path.dropWhile (· == '/'), query := r.query, fragment := none }

/-- The reference to request for a URL. -/
def requested (url : String) : Except WebFault Reference := do
  let r ← (Reference.read url.toList).mapError .reference
  addressed (rooted r)

/-- Where a page at `base` sends its reader by naming `location`: a host that is
missing behind a scheme is that of the page, other parts that are missing are
resolved, and a fragment is kept. -/
def redirected (base : Reference) (location : String) : Except WebFault Reference := do
  let target ← (Reference.read location.toList).mapError .location
  if !target.scheme.isEmpty then
    let _ ← shownHost target
  let target ←
    if !target.scheme.isEmpty && target.host.isEmpty then do
      (target.withHost (← shownHost base)).mapError .reference
    else .ok target
  let target ←
    if target.isAbsolute then .ok target
    else do
      (Reference.read (← (base.join target).mapError .join)).mapError .reference
  let target ←
    match nonempty? base.fragment, nonempty? target.fragment with
    | some fragment, none => (target.withFragment fragment).mapError .reference
    | _, _ => .ok target
  addressed target

/-- Where a response to a request for `url` sends its reader, if it does. -/
def nextUrl (url : Reference) (response : Response) :
    Except WebFault (Option Reference) :=
  if url.scheme.isEmpty then .error (.unknownType url.text)
  else
    match response.location? with
    | none => .ok none
    | some location => (redirected url location).map some

/-- The client of the web. -/
def Client.web : Client Reference where
  start url := (requested url).mapError WebFault.mishap
  url r := String.ofList r.text
  receive url response := (nextUrl url response).mapError WebFault.mishap

end FeatureGrant.Fetch
