/-!
# Fetched pages

What is kept of a page that was fetched.
-/

namespace FeatureGrant.Fetch

/-- The last response of a fetch: its URL, its status and its policy header,
which is empty if there was none. -/
structure Page where
  url : String
  status : Int
  header : String
  deriving DecidableEq, Repr

end FeatureGrant.Fetch
