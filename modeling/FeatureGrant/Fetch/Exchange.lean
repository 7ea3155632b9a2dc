import FeatureGrant.Failure
import FeatureGrant.Fetch.Page
import FeatureGrant.Fetch.Web
import FeatureGrant.Url.Head

/-!
# Fetching a page

Requests a URL and follows redirects, against a script of replies.  Each
request takes the next reply, and the last one repeats.  The page that is found
has the URL, the status and the header of the last response; responses that
redirect contribute nothing.
-/

namespace FeatureGrant.Fetch

open FeatureGrant.Text FeatureGrant.Url

/-- Why no page is found. -/
inductive FetchFault
  | unreadable (fault : HeadFault)
  | scheme
  | noHost
  | noReply
  | failed (mishap : Mishap)
  | foreignHeader (run : ForeignRun)
  | tooManyRedirects
  deriving DecidableEq, Repr

/-- The requests that were made, and what they led to. -/
structure Exchange where
  requests : List String
  result : Except FetchFault Page

namespace Exchange

/-- An exchange that made no request. -/
def refused (fault : FetchFault) : Exchange where
  requests := []
  result := .error fault

/-- An exchange behind an earlier request. -/
def after (url : String) (e : Exchange) : Exchange where
  requests := url :: e.requests
  result := e.result

end Exchange

/-- The next reply of a script and the script for later requests. -/
def nextReply : List Reply → Option (Reply × List Reply)
  | [] => none
  | [reply] => some (reply, [reply])
  | reply :: rest => some (reply, rest)

/-- The response in a reply to a request. -/
def received : Reply → Except FetchFault Response
  | .failure kind message => .error (.failed { kind, message })
  | .response response =>
    match response.foreignRun? with
    | some run => .error (.foreignHeader run)
    | none => .ok response

/-- How often a reader is sent elsewhere before it gives up. -/
def redirectLimit : Nat := 20

namespace Client

variable {σ : Type}

/-- Sends a request and those to which its response leads, with at most `limit`
requests. -/
def follow (client : Client σ) : (limit : Nat) → List Reply → σ → Exchange
  | 0, _, _ => .refused .tooManyRedirects
  | limit + 1, replies, here =>
    let text := client.url here
    match nextReply replies with
    | none => { requests := [text], result := .error .noReply }
    | some (reply, replies) =>
      match received reply with
      | .error fault => { requests := [text], result := .error fault }
      | .ok response =>
        match client.receive here response with
        | .error mishap => { requests := [text], result := .error (.failed mishap) }
        | .ok none =>
          { requests := [text]
            result := .ok
              { url := text, status := response.status
                header := response.policyHeader } }
        | .ok (some next) => (client.follow limit replies next).after text

/-- The first request for a URL, which must be one of the web. -/
def first (client : Client σ) (url : String) : Except FetchFault σ := do
  let head ← (Head.read url.toList).mapError .unreadable
  if head.scheme != ['h', 't', 't', 'p'] && head.scheme != ['h', 't', 't', 'p', 's'] then
    .error .scheme
  if head.host.isEmpty then .error .noHost
  (client.start url).mapError .failed

/-- Fetches the page at a URL. -/
def fetch (client : Client σ) (replies : List Reply) (url : String) : Exchange :=
  match client.first url with
  | .error fault => .refused fault
  | .ok first => client.follow (redirectLimit + 1) replies first

end Client

/-- Fetches the page at a URL of the web. -/
def fetch (replies : List Reply) (url : String) : Exchange :=
  Client.web.fetch replies url

/-- The failure of fetching `url`. -/
def FetchFault.failure (url : String) (fault : FetchFault) : Failure :=
  let fetching := fun (message : String) (cause : Option String) =>
    Failure.fault (.fetch url message) cause
  match fault with
  | .unreadable e => .system "ValueError" e.message
  | .scheme => fetching "URL scheme must be http or https" none
  | .noHost => fetching "URL must have a host" none
  | .noReply => .system "IndexError" "list index out of range"
  | .failed e =>
    if exchangeKinds.contains e.kind then
      fetching (if e.message.isEmpty then e.kind else e.message) (some e.kind)
    else .system e.kind e.message
  | .foreignHeader run => .system "UnicodeEncodeError" run.message
  | .tooManyRedirects =>
    fetching "Exceeded maximum allowed redirects." (some "TooManyRedirects")

end FeatureGrant.Fetch
