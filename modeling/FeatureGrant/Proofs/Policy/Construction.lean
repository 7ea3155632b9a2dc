import FeatureGrant.Policy.Arguments
import FeatureGrant.Proofs.Origin.Text
import FeatureGrant.Proofs.Resolution
import FeatureGrant.Proofs.Schema

/-!
# What a built policy is made of

A policy that was built has the origin of the URL of its page, the resolved
header, the defaults one by one, and, in a frame, the origin of the URL of the
frame and the resolved allow attribute.  Building from values of any shape is
building from what these values stand for.
-/

namespace FeatureGrant

theorem originOf_text_eq_ok_iff {url origin : String} :
    originOf (.text url) = .ok origin ↔ canonical? url = some origin := by
  rw [originOf, mapError_eq_ok_iff, canonical?_eq_some_iff]

theorem originOf_text_eq_error_iff {url : String} {e : InvalidUrl} :
    originOf (.text url) = .error e ↔
      ∃ fault, canonicalize url = .error fault ∧ e = { url, fault } := by
  rw [originOf, mapError_eq_error_iff]
  simp only [eq_comm]

theorem exists_canonical?_of_originOf {v : Value} {origin : String}
    (hok : originOf v = .ok origin) : ∃ url, canonical? url = some origin := by
  cases v with
  | text url => exact ⟨url, originOf_text_eq_ok_iff.mp hok⟩
  | _ => exact nomatch hok

/-! ## Normal form -/

/-- The allowlists of a map once its keywords are resolved, which they are
already in a map of normalized form. -/
def PolicyMap.resolution (page : String) (src : Option String)
    (m : PolicyMap) : Grants :=
  match m.form with
  | .normalized => m.grants
  | .parsed => m.grants.resolve page src

theorem PolicyMap.eq_of_normalize_eq_ok {page : String}
    {src : Option String} {m n : PolicyMap}
    (hok : m.normalize page src = .ok n) :
    n = { form := .normalized, grants := m.resolution page src } := by
  obtain ⟨form, grants⟩ := m
  cases form with
  | parsed => exact (PolicyMap.normalized_eq_ok_iff.mp hok).2
  | normalized => exact (Except.ok.inj hok).symm

section

variable {page : String} {src : Option String}

theorem PolicyMap.firstUnresolved?_resolution
    (hpage : ∀ k : Keyword, page ≠ k.text)
    (hsrc : ∀ k : Keyword, src ≠ some k.text) (m : PolicyMap) :
    firstUnresolved? (m.resolution page src) = none ↔ m.IsValid := by
  obtain ⟨form, grants⟩ := m
  cases form with
  | parsed =>
      constructor
      · intro _ hform
        exact nomatch hform
      · intro _
        exact firstUnresolved?_resolve hpage hsrc grants
  | normalized =>
      constructor
      · intro h _
        exact h
      · intro h
        exact h rfl

/-- Every map can be brought into normalized form, unless the page or the frame
is written like a keyword. -/
theorem PolicyMap.normalize_eq_ok (hpage : ∀ k : Keyword, page ≠ k.text)
    (hsrc : ∀ k : Keyword, src ≠ some k.text) (m : PolicyMap) :
    m.normalize page src =
      .ok { form := .normalized, grants := m.resolution page src } := by
  obtain ⟨form, grants⟩ := m
  cases form with
  | parsed =>
      exact normalized_eq_ok_iff.mpr
        ⟨firstUnresolved?_resolve hpage hsrc grants, rfl⟩
  | normalized => rfl

end

/-- The map that the allow attribute of a described frame stands for. -/
def FrameInfo.attribute (info : FrameInfo PolicyMap) : PolicyMap :=
  match info.allow with
  | .text value => AllowAttribute.parse value
  | .map m => m

/-- Whether a described frame can be used: its URL has an origin, and the map
of its allow attribute may be used. -/
def FrameInfo.IsUsable (info : FrameInfo PolicyMap) : Prop :=
  canonical? info.origin ≠ none ∧ info.attribute.IsValid

instance (info : FrameInfo PolicyMap) : Decidable info.IsUsable :=
  inferInstanceAs (Decidable (_ ∧ _))

/-! ## The parts of a policy -/

namespace Policy

theorem readHeader_text_eq_ok_iff {page text : String} {grants : Grants} :
    readHeader page (.text text) = .ok grants ↔
      ∃ m, Header.parse text = .ok m ∧ readHeader page (.map m) = .ok grants := by
  simp only [readHeader, bind_eq_ok_iff, mapError_eq_ok_iff, Except.ok.injEq,
    exists_eq_left']

theorem readHeader_map_eq_ok_iff {page : String} {m : PolicyMap}
    {grants : Grants} :
    readHeader page (.map m) = .ok grants ↔
      m.normalize page none = .ok { form := .normalized, grants } := by
  simp only [readHeader, bind_eq_ok_iff, mapError_eq_ok_iff, Except.ok.injEq,
    exists_eq_left']
  constructor
  · rintro ⟨n, hn, rfl⟩
    rw [hn, PolicyMap.eq_of_normalize_eq_ok hn]
  · intro hok
    exact ⟨_, hok, rfl⟩

theorem readHeader_text_eq_ok {page value : String} {grants : Grants}
    (hok : readHeader page (.text value) = .ok grants) :
    ∃ parsed, Header.read value = .ok parsed ∧
      grants = parsed.resolve page none := by
  obtain ⟨m, hm, hgrants⟩ := readHeader_text_eq_ok_iff.mp hok
  obtain ⟨parsed, hparsed, rfl⟩ := map_eq_ok_iff.mp hm
  have hnormal :=
    PolicyMap.eq_of_normalize_eq_ok (readHeader_map_eq_ok_iff.mp hgrants)
  exact ⟨parsed, hparsed, congrArg PolicyMap.grants hnormal⟩

/-- A header that was resolved before is taken as it is. -/
theorem readHeader_normalized (page : String) (grants : Grants) :
    readHeader page (.map { form := .normalized, grants }) = .ok grants := rfl

/-- A frame is the origin of its URL and the resolved allow attribute. -/
theorem readFrame_eq_ok {page : String} {info : FrameInfo PolicyMap}
    {frame : Frame} (hok : readFrame page info = .ok frame) :
    canonical? info.origin = some frame.origin ∧
      frame.allow =
        (match info.allow with
          | .text value => AllowAttribute.parse value
          | .map m => m).resolution page (some frame.origin) := by
  simp only [readFrame, bind_eq_ok_iff, mapError_eq_ok_iff,
    originOf_text_eq_ok_iff] at hok
  obtain ⟨origin, horigin, resolved, hresolved, checked, hchecked, hframe⟩ := hok
  obtain rfl := Except.ok.inj hframe
  obtain ⟨-, rfl⟩ := PolicyMap.normalized_eq_ok_iff.mp hchecked
  obtain rfl := PolicyMap.eq_of_normalize_eq_ok hresolved
  exact ⟨horigin, rfl⟩

theorem firstUnresolved?_of_readFrame {page : String}
    {info : FrameInfo PolicyMap} {frame : Frame}
    (hok : readFrame page info = .ok frame) :
    PolicyMap.firstUnresolved? frame.allow = none := by
  simp only [readFrame, bind_eq_ok_iff, mapError_eq_ok_iff] at hok
  obtain ⟨_, _, resolved, _, checked, hchecked, hframe⟩ := hok
  obtain ⟨hnone, rfl⟩ := PolicyMap.normalized_eq_ok_iff.mp hchecked
  obtain rfl := Except.ok.inj hframe
  exact hnone

/-- A frame can be read if its description can be used. -/
theorem readFrame_eq_ok_iff {page : String}
    (hpage : ∀ k : Keyword, page ≠ k.text) {info : FrameInfo PolicyMap}
    {frame : Frame} :
    readFrame page info = .ok frame ↔
      canonical? info.origin = some frame.origin ∧ info.attribute.IsValid ∧
        frame.allow = info.attribute.resolution page (some frame.origin) := by
  constructor
  · intro hok
    obtain ⟨horigin, hallow⟩ := readFrame_eq_ok hok
    have hnone := firstUnresolved?_of_readFrame hok
    rw [hallow, PolicyMap.firstUnresolved?_resolution hpage
      (some_ne_keyword_of_canonical? horigin)] at hnone
    exact ⟨horigin, hnone, hallow⟩
  · rintro ⟨horigin, hvalid, hallow⟩
    have hsrc := some_ne_keyword_of_canonical? horigin
    have hnone := (PolicyMap.firstUnresolved?_resolution hpage hsrc
      info.attribute).mpr hvalid
    simp only [readFrame, bind_eq_ok_iff, mapError_eq_ok_iff,
      originOf_text_eq_ok_iff]
    refine ⟨frame.origin, horigin, _,
      PolicyMap.normalize_eq_ok hpage hsrc info.attribute, _,
      PolicyMap.normalized_eq_ok_iff.mpr ⟨hnone, rfl⟩, ?_⟩
    rw [← hallow]

/-- A frame whose URL has no origin cannot be read. -/
theorem readFrame_of_canonicalize {page : String} {info : FrameInfo PolicyMap}
    {fault : UrlFault} (hfault : canonicalize info.origin = .error fault) :
    readFrame page info = .error (.frameUrl { url := info.origin, fault }) := by
  rw [readFrame, originOf, hfault]
  rfl

theorem withFrame_eq_ok_iff {p q : Policy} {info : FrameInfo PolicyMap} :
    p.withFrame info = .ok q ↔
      ∃ frame, readFrame p.page info = .ok frame ∧
        q = { p with frame := some frame } := by
  rw [withFrame, bind_eq_ok_iff]
  simp only [Except.ok.injEq, eq_comm]

theorem ofPage_eq_ok_iff {page : Value} {header : Source PolicyMap}
    {defaults : OrderedMap Value} {p : Policy} :
    ofPage page header defaults = .ok p ↔
      originOf page = .ok p.page ∧ readHeader p.page header = .ok p.header ∧
        readDefaults defaults = .ok p.defaults ∧ p.frame = none := by
  simp only [ofPage, bind_eq_ok_iff, mapError_eq_ok_iff]
  constructor
  · rintro ⟨origin, horigin, grants, hgrants, values, hvalues, hp⟩
    obtain rfl := Except.ok.inj hp
    exact ⟨horigin, hgrants, hvalues, rfl⟩
  · rintro ⟨horigin, hgrants, hvalues, hframe⟩
    exact ⟨p.page, horigin, p.header, hgrants, p.defaults, hvalues, hframe ▸ rfl⟩

theorem build_some_eq_ok {page : Value} {header : Source PolicyMap}
    {defaults : OrderedMap Value} {info : FrameInfo PolicyMap} {p : Policy}
    (hok : build page header defaults (some info) = .ok p) :
    originOf page = .ok p.page ∧ readHeader p.page header = .ok p.header ∧
      readDefaults defaults = .ok p.defaults ∧
      ∃ frame, readFrame p.page info = .ok frame ∧ p.frame = some frame := by
  rw [build, bind_eq_ok_iff] at hok
  obtain ⟨p₀, hpage, hframe⟩ := hok
  obtain ⟨hurl, hheader, hdefaults, -⟩ := ofPage_eq_ok_iff.mp hpage
  obtain ⟨frame, hread, rfl⟩ := withFrame_eq_ok_iff.mp hframe
  exact ⟨hurl, hheader, hdefaults, frame, hread, rfl⟩

theorem build_some {page : Value} {origin : String} {header : Source PolicyMap}
    {grants : Grants} {values : OrderedMap Value} {defaults : OrderedMap Default}
    {info : FrameInfo PolicyMap} {frame : Frame}
    (hpage : originOf page = .ok origin)
    (hheader : readHeader origin header = .ok grants)
    (hdefaults : readDefaults values = .ok defaults)
    (hframe : readFrame origin info = .ok frame) :
    build page header values (some info) =
      .ok { page := origin, header := grants, defaults, frame := some frame } :=
  bind_eq_ok_iff.mpr
    ⟨{ page := origin, header := grants, defaults, frame := none },
      ofPage_eq_ok_iff.mpr ⟨hpage, hheader, hdefaults, rfl⟩,
      withFrame_eq_ok_iff.mpr ⟨frame, hframe, rfl⟩⟩

/-- The page of a policy is what the policy is without its frame. -/
theorem ofPage_of_build {page : Value} {header : Source PolicyMap}
    {defaults : OrderedMap Value} {info? : Option (FrameInfo PolicyMap)}
    {p : Policy} (hok : build page header defaults info? = .ok p) :
    ofPage page header defaults = .ok { p with frame := none } := by
  rw [build, bind_eq_ok_iff] at hok
  obtain ⟨p₀, hpage, hframe⟩ := hok
  have hnone := (ofPage_eq_ok_iff.mp hpage).2.2.2
  cases info? with
  | none =>
      obtain rfl := Except.ok.inj hframe
      rw [hpage, ← hnone]
  | some info =>
      obtain ⟨frame, -, rfl⟩ := withFrame_eq_ok_iff.mp hframe
      rw [hpage, ← hnone]

/-- The frame of a policy was read from a description. -/
theorem exists_readFrame_of_build {page : Value} {header : Source PolicyMap}
    {defaults : OrderedMap Value} {info? : Option (FrameInfo PolicyMap)}
    {p : Policy} (hok : build page header defaults info? = .ok p) {f : Frame}
    (hf : p.frame = some f) :
    ∃ info, info? = some info ∧ readFrame p.page info = .ok f := by
  cases info? with
  | none =>
      obtain ⟨p₀, hpage, hp⟩ := bind_eq_ok_iff.mp hok
      obtain rfl := Except.ok.inj hp
      rw [(ofPage_eq_ok_iff.mp hpage).2.2.2] at hf
      exact nomatch hf
  | some info =>
      obtain ⟨-, -, -, frame, hread, hframe⟩ := build_some_eq_ok hok
      obtain rfl : frame = f := Option.some.inj (hframe.symm.trans hf)
      exact ⟨info, rfl, hread⟩

/-- Every default is one of the four, in the spelling of its value. -/
theorem get?_readDefaults {values : OrderedMap Value}
    {defaults : OrderedMap Default} (hok : readDefaults values = .ok defaults)
    (feature : String) :
    defaults.get? feature = (values.get? feature).bind Default.ofValue? := by
  cases hvalue : values.get? feature with
  | none => exact OrderedMap.get?_traverse_of_eq_none hok hvalue
  | some value =>
      obtain ⟨d, hd, hget⟩ := OrderedMap.get?_traverse_of_eq_some hok hvalue
      rw [hget, Option.bind_some]
      split at hd
      next d' hd' => rw [hd', Except.ok.inj hd]
      next => exact nomatch hd

end Policy

/-! ## Arguments of any shape -/

namespace Arguments

variable {known : Registry}

/-- A policy is built from what the arguments stand for. -/
theorem exists_build_of_policy {page header' defaults' frame' : Value}
    {p : Policy} (hok : policy known page header' defaults' frame' = .ok p) :
    ∃ source values info?, header known header' = .ok source ∧
      defaults known defaults' = .ok values ∧
      frame known frame' = .ok info? ∧
      Policy.build page source values
        (info?.map (·.mapAllow Held.content)) = .ok p := by
  simp only [policy, bind_eq_ok_iff, mapError_eq_ok_iff] at hok
  obtain ⟨origin, horigin, source, hsource, grants, hgrants, values, hvalues,
    d, hd, info?, hinfo, hp⟩ := hok
  refine ⟨source, values, info?, hsource, hvalues, hinfo, ?_⟩
  have hpage : Policy.ofPage page source values =
      .ok { page := origin, header := grants, defaults := d, frame := none } :=
    Policy.ofPage_eq_ok_iff.mpr ⟨horigin, hgrants, hd, rfl⟩
  rw [Policy.build, bind_eq_ok_iff]
  refine ⟨_, hpage, ?_⟩
  cases info? with
  | none => exact congrArg Except.ok (Except.ok.inj hp)
  | some info => exact mapError_eq_ok_iff.mp hp

/-- A policy is made from its page first, and then from its frame. -/
theorem policy_eq_bind {page header' defaults' frame' : Value}
    {source : Source PolicyMap} {values : OrderedMap Value}
    (hheader : header known header' = .ok source)
    (hdefaults : defaults known defaults' = .ok values) :
    policy known page header' defaults' frame' =
      (Policy.ofPage page source values).mapError BuildFault.failure >>=
        fun p => frame known frame' >>= fun info? => match info? with
          | none => .ok p
          | some info => (p.withFrame (info.mapAllow Held.content)).mapError
            BuildFault.failure := by
  rw [policy, hheader, hdefaults, Policy.ofPage]
  cases originOf page with
  | error fault => rfl
  | ok origin =>
      dsimp only [Except.mapError, bind, Except.bind]
      cases Policy.readHeader origin source with
      | error fault => rfl
      | ok grants =>
          dsimp only
          cases Policy.readDefaults values with
          | error fault => rfl
          | ok d => rfl

/-- Building from values of any shape is building from what they stand for. -/
theorem policy_eq_build {page header' defaults' frame' : Value}
    {source : Source PolicyMap} {values : OrderedMap Value}
    {info? : Option (FrameInfo Held)}
    (hheader : header known header' = .ok source)
    (hdefaults : defaults known defaults' = .ok values)
    (hframe : frame known frame' = .ok info?) :
    policy known page header' defaults' frame' =
      (Policy.build page source values
        (info?.map (·.mapAllow Held.content))).mapError BuildFault.failure := by
  rw [policy_eq_bind hheader hdefaults, hframe, Policy.build]
  cases Policy.ofPage page source values with
  | error fault => rfl
  | ok p =>
      cases info? with
      | none => rfl
      | some info => rfl

/-- Defaults that are given as the entries of a map are those of the map. -/
theorem defaults_map (values : OrderedMap Value) :
    defaults known
        (.map (values.entries.map fun entry => (.text entry.1, entry.2))) =
      .ok values := by
  have hlist : (values.entries.map fun entry =>
      ((Value.text entry.1, entry.2) : Value × Value)).map
        (fun entry => (entry.1.plain, entry.2)) = values.entries := by
    rw [List.map_map]
    exact List.map_id _
  cases hentries : values.entries with
  | nil =>
      have hempty : values = ∅ := OrderedMap.ext hentries
      rw [hempty]
      rfl
  | cons entry rest =>
      have hvalues := OrderedMap.ofList_entries values
      rw [← hlist, hentries] at hvalues
      exact congrArg Except.ok hvalues

/-- A frame that is given as two texts has them. -/
theorem frame_texts {url allow : String} {info? : Option (FrameInfo Held)}
    (hok : frame known (.map [(.text "origin", .text url),
      (.text "allow", .text allow)]) = .ok info?) :
    info? = some { origin := url, allow := .text allow } := by
  unfold frame at hok
  simp only [Registry.instance?, bind_eq_ok_iff, mapError_eq_ok_iff] at hok
  obtain ⟨entries, hentries, info, hinfo, hsome⟩ := hok
  obtain rfl := Except.ok.inj hentries
  obtain rfl := Except.ok.inj hsome
  rcases Schema.frameInfo_eq_ok hinfo with h | ⟨fields, hfields, horigin, hallow⟩
  · cases h
  · obtain rfl := Option.some.inj hfields
    obtain ⟨v, hv, hurl⟩ := Schema.required_eq_ok horigin
    obtain rfl : Value.text url = v := Option.some.inj hv
    have hsource : Source.text allow = info.allow := Except.ok.inj hallow
    rw [← Schema.eq_of_nonemptyText_text hurl, hsource]

end Arguments

end FeatureGrant
