import FeatureGrant.Proofs.AllowAttribute.Written
import FeatureGrant.Proofs.Header.Written

/-!
# Both syntaxes express every map

A map from features to allowlists is recovered from the header and from the
allow attribute that is written for it, with the features in their order,
provided that the syntax has a way to write the features and the members of the
sets.  Origins have to be canonical, since the readers bring them into that form.
-/

namespace FeatureGrant

/-- A map that is written as a header and a map that is written as an allow
attribute are read back. -/
theorem parse_write {m n : OrderedMap Listing}
    (hkeys : ∀ feature ∈ m.keys, isKey feature.toList = true)
    (hheader : ∀ entry ∈ m.entries, Header.CanWrite entry.2)
    (hwords : ∀ feature ∈ n.keys, isDirectiveWord feature.toList = true)
    (hallow : ∀ entry ∈ n.entries, AllowAttribute.CanWrite entry.2) :
    Header.parse (Header.write m) =
        .ok { form := .parsed, grants := m.map Listing.allowlist } ∧
      AllowAttribute.parse (AllowAttribute.write n) =
        { form := .parsed, grants := n.map Listing.allowlist } :=
  ⟨Header.parse_written hkeys hheader,
    AllowAttribute.parse_written hwords hallow⟩

/-- The listings of a header.  One of the host names holds a quotation mark. -/
def cameraListings : OrderedMap Listing :=
  .ofList
    [("camera", .members ["https://b.example", "'self'", "https://a\"b.example:80"]),
      ("*", .wildcard), ("geolocation", .deny)]

/-- The listings of an allow attribute. -/
def microphoneListings : OrderedMap Listing :=
  .ofList
    [("microphone", .members ["'src'", "https://b.example", "'self'"]),
      ("camera", .members []), ("geolocation", .deny), ("fullscreen", .wildcard)]

/-- How the two maps are written, and that they are read from what is
written. -/
theorem cameraListings_written :
    Header.parse ("camera=(\"https://b.example\" self \"https://a\\\"b.example:80\"), "
        ++ "*=*, geolocation=()") =
          .ok { form := .parsed, grants := cameraListings.map Listing.allowlist } ∧
      AllowAttribute.parse ("microphone 'src' https://b.example 'self'; camera; "
        ++ "geolocation 'none'; fullscreen *") =
          { form := .parsed
            grants := microphoneListings.map Listing.allowlist } := by
  have hheader : Header.write cameraListings =
      "camera=(\"https://b.example\" self \"https://a\\\"b.example:80\"), "
        ++ "*=*, geolocation=()" := by
    decide
  have hallow : AllowAttribute.write microphoneListings =
      "microphone 'src' https://b.example 'self'; camera; "
        ++ "geolocation 'none'; fullscreen *" := by
    decide
  rw [← hheader, ← hallow]
  exact parse_write (by decide) (by decide) (by decide)
    (by decide)

end FeatureGrant
