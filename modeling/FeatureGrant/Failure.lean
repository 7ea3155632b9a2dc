import FeatureGrant.Fault.Basic
import FeatureGrant.Policy.Basic
import FeatureGrant.Schema.Models

/-!
# Failures

The ways in which an operation of the library ends without a result: with a
fault of its own and the kind of error behind it, with data of the wrong shape,
or with an error of the system.
-/

namespace FeatureGrant

/-- Why an operation has no result. -/
inductive Failure
  | fault (fault : Fault) (cause : Option String)
  | shape (model : String) (violations : List Schema.Violation)
  | system (kind message : String)

/-- The kind of error behind an invalid URL. -/
def UrlFault.cause? : UrlFault → Option String
  | .unreadable _ => some "ValueError"
  | .unusableName _ => some "UnicodeError"
  | _ => none

/-- The failure of reading a URL. -/
def InvalidUrl.failure (e : InvalidUrl) : Failure :=
  .fault (.invalidUrl e.url e.fault.reason) e.fault.cause?

/-- The failure of reading a header. -/
def HeaderFault.failure (header : String) (fault : HeaderFault) : Failure :=
  match fault with
  | .notAscii _ =>
    .fault (.malformedHeader header none fault.underlying) (some "UnicodeEncodeError")
  | .notDictionary => .fault (.malformedHeader header none "") (some "ValueError")
  | .missingAllowlist feature =>
    .fault (.missingAllowlist header (some feature) "") none
  | .unknownValue feature value =>
    .fault (.unknownHeaderValue header (some feature) "" value.shown) none

/-- The failure of a keyword that cannot be resolved. -/
def UnresolvedKeyword.failure (model : String) (path : List Schema.Step)
    (e : UnresolvedKeyword) : Failure :=
  .shape model [{ path, flaw := .unresolvedKeyword e.feature }]

/-- The failure of building a policy. -/
def BuildFault.failure : BuildFault → Failure
  | pageUrl e | frameUrl e => e.failure
  | header value fault => fault.failure value
  | headerKeyword e | allowKeyword e => e.failure "NormalizedPolicy" []
  | frameKeyword e => e.failure "FrameContext" [.name "allow"]
  | default e =>
    .fault (.invalidDefault "" e.feature e.value.plain) (some "ValueError")

end FeatureGrant
