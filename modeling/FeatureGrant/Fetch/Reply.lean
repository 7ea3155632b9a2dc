import FeatureGrant.Text.Ascii

/-!
# Replies

What answers a request: a response, or a failure of the exchange.  A header
name is matched in any case, and the lines of a header are joined by commas.
-/

namespace FeatureGrant.Fetch

open FeatureGrant.Text

/-- A header line. -/
structure HeaderLine where
  name : String
  value : String
  deriving DecidableEq, Repr

/-- A response: its status and its header lines. -/
structure Response where
  status : Int
  headers : List HeaderLine
  deriving DecidableEq, Repr

/-- An answer to a request; a failure has a kind and a text. -/
inductive Reply
  | response (response : Response)
  | failure (kind message : String)
  deriving DecidableEq, Repr

namespace Response

/-- The values of a header, line by line. -/
def values (r : Response) (name : String) : List String :=
  (r.headers.filter fun line => line.name.map Char.toLower == name).map (·.value)

/-- The policy header, empty if there is none. -/
def policyHeader (r : Response) : String :=
  ", ".intercalate (r.values "permissions-policy")

/-- Statuses that send the reader elsewhere. -/
def redirectStatuses : List Int := [301, 302, 303, 307, 308]

/-- Where a response sends its reader. -/
def location? (r : Response) : Option String :=
  if redirectStatuses.contains r.status then
    match r.values "location" with
    | [] => none
    | lines => some (", ".intercalate lines)
  else none

/-- The first text in the header lines that is not ASCII. -/
def foreignRun? (r : Response) : Option ForeignRun :=
  r.headers.findSome? fun line =>
    Text.foreignRun? line.name.toList <|> Text.foreignRun? line.value.toList

end Response

/-- Kinds of failures that concern the exchange itself. -/
def exchangeKinds : List String :=
  ["HTTPError", "RequestError", "TransportError", "TimeoutException", "ConnectTimeout",
   "ReadTimeout", "WriteTimeout", "PoolTimeout", "NetworkError", "ConnectError",
   "ReadError", "WriteError", "CloseError", "ProxyError", "UnsupportedProtocol",
   "ProtocolError", "LocalProtocolError", "RemoteProtocolError", "DecodingError",
   "TooManyRedirects", "HTTPStatusError"]

end FeatureGrant.Fetch
