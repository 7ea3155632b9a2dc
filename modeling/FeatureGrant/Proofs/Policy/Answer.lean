import FeatureGrant.Proofs.AllowAttribute
import FeatureGrant.Proofs.Header
import FeatureGrant.Proofs.Policy.Ruling

/-!
# Policies answer requests

A policy that is built from a header and an allow attribute answers every
question as the words of the two do at once.  The stages in between (reading
into maps, resolving keywords, ruling) are compared with the words one by one:
first the header, then the allow attribute, then the default.
-/

namespace FeatureGrant

/-- What a policy is made of that was built from a request. -/
structure Request.Parts (r : Request) (p : Policy) (frame : Frame) : Prop where
  page : canonical? r.url = some p.page
  header : ∃ parsed, Header.read r.header = .ok parsed ∧
    p.header = parsed.resolve p.page none
  defaults : Policy.readDefaults r.defaults = .ok p.defaults
  framed : p.frame = some frame
  origin : canonical? r.frameUrl = some frame.origin
  allow : frame.allow =
    (AllowAttribute.read r.allow).resolve p.page (some frame.origin)

namespace Request

theorem exists_parts {known : Registry} {r : Request} {p : Policy}
    (hbuilt : r.policy known = .ok p) : ∃ frame, r.Parts p frame := by
  obtain ⟨source, values, info?, hsource, hvalues, hinfo, hp⟩ :=
    Arguments.exists_build_of_policy hbuilt
  obtain rfl : Source.text r.header = source := Except.ok.inj hsource
  rw [Arguments.defaults_map] at hvalues
  obtain rfl := Except.ok.inj hvalues
  obtain rfl := Arguments.frame_texts hinfo
  obtain ⟨hpage, hheader, hdefaults, frame, hread, hframe⟩ :=
    Policy.build_some_eq_ok hp
  obtain ⟨horigin, hallow⟩ := Policy.readFrame_eq_ok hread
  exact ⟨frame, originOf_text_eq_ok_iff.mp hpage,
    Policy.readHeader_text_eq_ok hheader, hdefaults, hframe, horigin, hallow⟩

namespace Parts

variable {r : Request} {p : Policy} {frame : Frame} {checked : String}

theorem page_ne_src (h : r.Parts p frame) : p.page ≠ Keyword.src.text :=
  ne_keyword_of_canonical? h.page .src

/-! ## The header -/

theorem get?_header (h : r.Parts p frame) (feature : String) :
    p.header.get? feature =
      (r.items? feature).map fun items =>
        (Header.settled [] items).resolve p.page none := by
  obtain ⟨parsed, hread, hheader⟩ := h.header
  rw [hheader, Grants.get?_resolve, Header.get?_read hread, Option.map_map]
  rfl

theorem header_allows (h : r.Parts p frame)
    (hchecked : ∀ k : Keyword, checked ≠ k.text) (feature : String) :
    (p.header.get? feature).all (·.allows checked) =
      (r.items? feature).all (itemsAllow p.page checked) := by
  rw [h.get?_header]
  cases r.items? feature with
  | none => rfl
  | some items =>
      exact Header.allows_resolve_settled h.page_ne_src hchecked items

/-! ## The allow attribute -/

theorem fromFrame_eq (h : r.Parts p frame) (feature : String) :
    p.fromFrame feature =
      (r.targets? feature).map fun targets =>
        (AllowAttribute.allowlist targets).resolve p.page
          (some frame.origin) := by
  rw [Policy.fromFrame, h.framed, Option.bind_some, h.allow,
    Grants.get?_resolve, AllowAttribute.get?_read, Option.map_map]
  rfl

theorem frame_allows (h : r.Parts p frame) (feature checked : String) :
    (p.frame.all fun frame =>
        frame.allows p.page (p.fromFrame feature) checked) =
      targetsAllow p.page frame.origin checked (r.targets? feature) := by
  rw [h.fromFrame_eq, h.framed, Option.all_some]
  cases r.targets? feature with
  | none => rfl
  | some targets =>
      exact AllowAttribute.allows_resolve_allowlist h.page_ne_src
        (ne_empty_of_canonical? h.origin) checked targets

/-! ## The default -/

theorem defaultOf_eq (h : r.Parts p frame) (feature : String) :
    p.defaultOf feature = r.default feature := by
  rw [Policy.defaultOf, Policy.get?_readDefaults h.defaults]
  rfl

theorem defaultVerdict_eq (h : r.Parts p frame) (d : Default)
    (checked : String) :
    (p.defaultVerdict d checked).1 =
      defaultAllows p.page frame.origin checked d := by
  unfold Policy.defaultVerdict
  rw [h.framed]
  cases d with
  | none => rfl
  | wildcard =>
      by_cases hpage : frame.origin = p.page
      · simp [defaultAllows, hpage]
      · simp [defaultAllows, hpage]
  | src =>
      by_cases horigin : checked = frame.origin
      · simp [defaultAllows, horigin]
      · simp [defaultAllows, horigin, Ne.symm horigin]
  | self =>
      by_cases hpage : frame.origin = p.page
      · by_cases horigin : checked = p.page
        · simp [defaultAllows, hpage, horigin]
        · simp [defaultAllows, hpage, horigin]
      · simp [defaultAllows, hpage]

/-! ## The answer -/

theorem mentions_iff (h : r.Parts p frame) (feature : String) :
    p.Mentions feature ↔ r.items? feature ≠ none ∨ r.targets? feature ≠ none := by
  rw [Policy.Mentions, h.get?_header, h.fromFrame_eq, ne_eq, ne_eq,
    Option.map_eq_none_iff, Option.map_eq_none_iff]

theorem rule_allowed (h : r.Parts p frame)
    (hchecked : ∀ k : Keyword, checked ≠ k.text) (feature : String) :
    (p.rule feature checked).allowed =
      match r.items? feature, r.targets? feature with
      | none, none =>
          defaultAllows p.page frame.origin checked (r.default feature)
      | items, targets =>
          items.all (itemsAllow p.page checked) &&
            targetsAllow p.page frame.origin checked targets := by
  by_cases hmentions : p.Mentions feature
  · rw [Policy.rule_allowed_of_mentions hmentions, h.header_allows hchecked,
      h.frame_allows]
    rw [h.mentions_iff] at hmentions
    split
    next hitems htargets =>
      rcases hmentions with hne | hne
      · exact absurd hitems hne
      · exact absurd htargets hne
    next => rfl
  · rw [Policy.rule_allowed_of_not_mentions hmentions, h.defaultOf_eq,
      h.defaultVerdict_eq]
    rw [h.mentions_iff, not_or, Classical.not_not, Classical.not_not]
      at hmentions
    rw [hmentions.1, hmentions.2]

theorem checked?_eq (h : r.Parts p frame) (origin : String) :
    p.checked? (.text origin) =
      if origin = "" then some frame.origin else canonical? origin := by
  by_cases horigin : origin = ""
  · rw [if_pos horigin, horigin, Policy.checked?_empty, Policy.ownOrigin,
      h.framed]
    rfl
  · rw [if_neg horigin, p.checked?_text_of_ne_empty horigin]

end Parts

/-- A policy allows what its header and its allow attribute allow at once. -/
theorem allows_eq_answer {known : Registry} {r : Request} {p : Policy}
    (hbuilt : r.policy known = .ok p) (feature origin : String) :
    ∃ page frame, canonical? r.url = some page ∧
      canonical? r.frameUrl = some frame ∧
      p.allows feature (.text origin) = r.answer page frame feature origin := by
  obtain ⟨frame, h⟩ := exists_parts hbuilt
  refine ⟨p.page, frame.origin, h.page, h.origin, ?_⟩
  rw [answer, ← h.checked?_eq]
  cases hchecked : p.checked? (.text origin) with
  | none => exact Policy.allows_eq_false_of_checked?_eq_none hchecked feature
  | some checked =>
      have hkeyword : ∀ k : Keyword, checked ≠ k.text := by
        intro k
        rw [h.checked?_eq] at hchecked
        split at hchecked
        next =>
          obtain rfl := Option.some.inj hchecked
          exact ne_keyword_of_canonical? h.origin k
        next => exact ne_keyword_of_canonical? hchecked k
      rw [Policy.allows_eq_of_checked?_eq_some hchecked]
      exact h.rule_allowed hkeyword feature

/-- A page that gives its location to one other origin, and a frame of that
origin. -/
def mapRequest : Request where
  url := "https://a.example"
  header := "geolocation=(self \"https://b.example\"), camera=*"
  defaults := ∅
  frameUrl := "https://b.example/map"
  allow := "geolocation 'src' https://a.example; camera 'none'"

/-- The frame gets the location. -/
theorem mapRequest_allows :
    ∃ p, mapRequest.policy .none = .ok p ∧
      p.allows "geolocation" (.text "") = true := by
  have hbuilt : (mapRequest.policy .none).toOption.isSome = true := by
    decide +kernel
  obtain ⟨p, hp⟩ := Option.isSome_iff_exists.mp hbuilt
  rw [toOption_eq_some_iff] at hp
  obtain ⟨page, frame, hpage, hframe, hallows⟩ :=
    allows_eq_answer hp "geolocation" ""
  have hurl : canonical? mapRequest.url = some "https://a.example" := by
    decide
  have hframeUrl : canonical? mapRequest.frameUrl =
      some "https://b.example" := by
    decide
  rw [hurl] at hpage
  rw [hframeUrl] at hframe
  obtain rfl := Option.some.inj hpage
  obtain rfl := Option.some.inj hframe
  refine ⟨p, hp, ?_⟩
  rw [hallows]
  decide +kernel

end Request

end FeatureGrant
