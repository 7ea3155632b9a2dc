import FeatureGrant.Fetch.Reply

/-!
# Clients

What sends requests and receives responses.  A client makes a request for a URL,
and with every response it is done or makes another request; either may go wrong
with an error of any kind.
-/

namespace FeatureGrant.Fetch

/-- An error of some kind, in words. -/
structure Mishap where
  kind : String
  message : String
  deriving DecidableEq, Repr

/-- A client. What it has at hand when it sends a request is a `σ`, for which it
knows the URL that is requested. -/
structure Client (σ : Type) where
  start : String → Except Mishap σ
  url : σ → String
  receive : σ → Response → Except Mishap (Option σ)

end FeatureGrant.Fetch
