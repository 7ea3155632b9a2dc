import FeatureGrant.Failure
import FeatureGrant.Proofs.Policy.Defaults

/-!
# Failures of building a policy

Whatever the page, the header, the defaults and the frame of a policy look like,
that it cannot be built from them is reported as a fault of the library.  Only
an allow attribute that claims to be resolved and is not has the wrong shape.
-/

namespace FeatureGrant

/-- A failure that is reported: a fault of the library. -/
def Failure.IsReported (f : Failure) : Prop :=
  ∃ fault cause, f = .fault fault cause

theorem InvalidUrl.isReported (e : InvalidUrl) : e.failure.IsReported :=
  ⟨_, _, rfl⟩

theorem HeaderFault.isReported (header : String) (fault : HeaderFault) :
    (fault.failure header).IsReported := by
  cases fault with
  | notAscii run => exact ⟨_, _, rfl⟩
  | notDictionary => exact ⟨_, _, rfl⟩
  | missingAllowlist feature => exact ⟨_, _, rfl⟩
  | unknownValue feature value => exact ⟨_, _, rfl⟩

namespace Policy

variable {page : String} {fault : BuildFault}

/-- A header that is a map can always be read. -/
theorem readHeader_map (hpage : ∀ k : Keyword, page ≠ k.text) (m : PolicyMap) :
    readHeader page (.map m) = .ok (m.resolution page none) := by
  have hnone : ∀ k : Keyword, (none : Option String) ≠ some k.text := nofun
  exact readHeader_map_eq_ok_iff.mpr (PolicyMap.normalize_eq_ok hpage hnone m)

/-- A header cannot be read if it is a text that is rejected. -/
theorem readHeader_eq_error_iff (hpage : ∀ k : Keyword, page ≠ k.text)
    {header : Source PolicyMap} :
    readHeader page header = .error fault ↔
      ∃ text e, header = .text text ∧ Header.parse text = .error e ∧
        fault = .header text e := by
  cases header with
  | map m =>
      rw [readHeader_map hpage m]
      constructor
      · intro hok
        cases hok
      · rintro ⟨text, e, htext, -⟩
        cases htext
  | text value =>
      have hparse : readHeader page (.text value) =
          (Header.parse value).mapError (.header value) >>= fun m =>
            readHeader page (.map m) := rfl
      rw [hparse, bind_eq_error_iff, mapError_eq_error_iff]
      constructor
      · rintro (⟨e, he, rfl⟩ | ⟨m, -, herror⟩)
        · exact ⟨value, e, rfl, he, rfl⟩
        · rw [readHeader_map hpage m] at herror
          cases herror
      · rintro ⟨text, e, htext, he, rfl⟩
        obtain rfl := Source.text.inj htext
        exact Or.inl ⟨e, he, rfl⟩

theorem isReported_of_readHeader (hpage : ∀ k : Keyword, page ≠ k.text)
    {header : Source PolicyMap} (herror : readHeader page header = .error fault) :
    fault.failure.IsReported := by
  obtain ⟨text, e, -, -, rfl⟩ := (readHeader_eq_error_iff hpage).mp herror
  exact e.isReported text

theorem isReported_of_readDefaults {defaults : OrderedMap Value}
    (herror : readDefaults defaults = .error fault) :
    fault.failure.IsReported := by
  obtain ⟨feature, value, -, rfl⟩ := readDefaults_eq_error_iff.mp herror
  exact ⟨_, _, rfl⟩

/-- A frame cannot be read if its URL has no origin, whatever its allow
attribute is that may be used. -/
theorem readFrame_eq_error_iff (hpage : ∀ k : Keyword, page ≠ k.text)
    {info : FrameInfo PolicyMap} (hvalid : info.attribute.IsValid) :
    readFrame page info = .error fault ↔
      ∃ e, canonicalize info.origin = .error e ∧
        fault = .frameUrl { url := info.origin, fault := e } := by
  cases hurl : canonicalize info.origin with
  | error e =>
      rw [readFrame_of_canonicalize hurl]
      simp [eq_comm]
  | ok origin =>
      have hframe : readFrame page info = .ok
          { origin, allow := info.attribute.resolution page (some origin) } :=
        (readFrame_eq_ok_iff hpage).mpr
          ⟨canonical?_eq_some_iff.mpr hurl, hvalid, rfl⟩
      rw [hframe]
      simp

theorem isReported_of_readFrame (hpage : ∀ k : Keyword, page ≠ k.text)
    {info : FrameInfo PolicyMap} (hvalid : info.attribute.IsValid)
    (herror : readFrame page info = .error fault) :
    fault.failure.IsReported := by
  obtain ⟨e, -, rfl⟩ := (readFrame_eq_error_iff hpage hvalid).mp herror
  exact InvalidUrl.isReported _

theorem isReported_of_ofPage {url : Value} {header : Source PolicyMap}
    {defaults : OrderedMap Value}
    (herror : ofPage url header defaults = .error fault) :
    fault.failure.IsReported := by
  simp only [ofPage, bind_eq_error_iff, mapError_eq_error_iff,
    mapError_eq_ok_iff] at herror
  rcases herror with ⟨e, -, rfl⟩ | ⟨page, hpage, hheader | ⟨_, -, herror⟩⟩
  · exact e.isReported
  · obtain ⟨url', hcanonical⟩ := exists_canonical?_of_originOf hpage
    exact isReported_of_readHeader (ne_keyword_of_canonical? hcanonical) hheader
  · rcases herror with hdefaults | ⟨_, -, hok⟩
    · exact isReported_of_readDefaults hdefaults
    · cases hok

/-- A policy that cannot be built is reported, if the allow attribute of its
frame may be used. -/
theorem isReported_of_build {url : Value} {header : Source PolicyMap}
    {defaults : OrderedMap Value} {info? : Option (FrameInfo PolicyMap)}
    (hvalid : ∀ info ∈ info?, info.attribute.IsValid)
    (herror : build url header defaults info? = .error fault) :
    fault.failure.IsReported := by
  rw [build, bind_eq_error_iff] at herror
  rcases herror with hpage | ⟨p, hpage, hframe⟩
  · exact isReported_of_ofPage hpage
  · cases info? with
    | none => cases hframe
    | some info =>
        obtain ⟨url', hcanonical⟩ :=
          exists_canonical?_of_originOf (ofPage_eq_ok_iff.mp hpage).1
        rcases bind_eq_error_iff.mp hframe with hframe | ⟨_, -, hok⟩
        · exact isReported_of_readFrame (ne_keyword_of_canonical? hcanonical)
            (hvalid info rfl) hframe
        · cases hok

end Policy

end FeatureGrant
