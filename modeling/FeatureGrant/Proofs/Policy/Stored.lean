import FeatureGrant.Proofs.AllowAttribute
import FeatureGrant.Proofs.Header
import FeatureGrant.Proofs.Origin.Reading
import FeatureGrant.Proofs.Policy.Inheritance

/-!
# What policies store

The page and the frame of a policy are stored as origins of URLs, and so are
the origins that are listed in a header or an allow attribute that was given as
text.  A map that is supplied has its keywords resolved, but what it lists
besides is stored in the spelling in which it is listed.  One inheritance keeps
all of this; by induction so does a chain of them.
-/

namespace FeatureGrant

/-- A text that is the origin of some URL. -/
def IsOrigin (text : String) : Prop := ∃ url, canonical? url = some text

theorem IsOrigin.ne_keyword {text : String} (h : IsOrigin text) (k : Keyword) :
    text ≠ k.text := by
  obtain ⟨url, hurl⟩ := h
  exact ne_keyword_of_canonical? hurl k

/-- An origin starts with a scheme in lower case. -/
theorem IsOrigin.toLower_of_head? {text : String} (h : IsOrigin text) {c : Char}
    (hc : text.toList.head? = some c) : c.toLower = c := by
  obtain ⟨url, hurl⟩ := h
  obtain ⟨o, ho, rfl⟩ := exists_origin_of_canonical? hurl
  have hscheme := (Origin.wellFormed_of_read ho).scheme
  rw [Origin.text, String.toList_ofList, Origin.chars_eq] at hc
  cases hfirst : o.scheme with
  | nil => exact absurd hfirst hscheme.ne_nil
  | cons first rest =>
      have hlower := hscheme.lower
      rw [hfirst] at hc hlower
      obtain rfl : first = c := Option.some.inj hc
      exact (List.cons.inj hlower).1

/-- A text that a supplied map lists for a feature. -/
def Source.Lists (source : Source PolicyMap) (feature text : String) : Prop :=
  ∃ m a, source = .map m ∧ m.grants.get? feature = some a ∧ text ∈ a.members

/-- An allowlist as it is stored: it lists origins, or texts that were supplied
as they are, but no keywords, and only a set of origins lists anything. -/
structure Allowlist.IsStored (a : Allowlist) (supplied : String → Prop) :
    Prop where
  origin : ∀ x ∈ a.members, IsOrigin x ∨ supplied x
  keyword : ∀ k : Keyword, ¬ k.text ∈ a.members
  terminal : a = .wildcard ∨ a = .deny → a.members = ∅

/-- The allowlists of a map as they are stored. -/
def Grants.IsStored (grants : Grants) (source : Source PolicyMap) : Prop :=
  ∀ feature a, grants.get? feature = some a → a.IsStored (source.Lists feature)

/-- A policy as it is stored, with the header and the frame that it was built
from. -/
structure Policy.IsStored (p : Policy) (header : Source PolicyMap)
    (frame? : Option (FrameInfo PolicyMap)) : Prop where
  page : IsOrigin p.page
  header : p.header.IsStored header
  frame : ∀ f, p.frame = some f → IsOrigin f.origin ∧
    ∃ info, frame? = some info ∧ f.allow.IsStored info.allow

/-! ## Maps before their keywords are resolved -/

/-- Whether a map comes from a source: it lists keywords, origins and what the
source lists. -/
def PolicyMap.IsFrom (m : PolicyMap) (source : Source PolicyMap) : Prop :=
  ∀ feature a, m.grants.get? feature = some a → ∀ x ∈ a.members,
    (∃ k : Keyword, x = k.text) ∨ IsOrigin x ∨ source.Lists feature x

theorem PolicyMap.isFrom_map (m : PolicyMap) : m.IsFrom (.map m) := by
  intro feature a ha x hx
  exact Or.inr (Or.inr ⟨m, a, rfl, ha, hx⟩)

/-- An item of a header lists `'self'` or an origin. -/
theorem Header.keyword_or_isOrigin_of_listed? {item : Field.BareItem} {x : String}
    (hx : listed? item = some x) : (∃ k : Keyword, x = k.text) ∨ IsOrigin x := by
  obtain ⟨text, -, htext⟩ := Option.bind_eq_some_iff.mp hx
  by_cases hself : text = "self"
  · rw [if_pos hself] at htext
    exact Or.inl ⟨.self, (Option.some.inj htext).symm⟩
  · rw [if_neg hself] at htext
    exact Or.inr ⟨text, htext⟩

theorem Header.exists_listed?_of_mem_settled {items : List Field.BareItem}
    {x : String} (hx : x ∈ (settled [] items).members) :
    ∃ item ∈ items, listed? item = some x := by
  unfold settled at hx
  split at hx
  next =>
    split at hx
    · exact absurd hx (SortedSet.not_mem_empty x)
    · exact absurd hx (SortedSet.not_mem_empty x)
  next =>
    unfold listing at hx
    split at hx
    · exact absurd hx (SortedSet.not_mem_empty x)
    · rw [List.append_nil, Allowlist.ofList, Allowlist.members,
        SortedSet.mem_ofList, List.mem_reverse, List.mem_filterMap] at hx
      exact hx

/-- A header that is read lists `'self'` and origins. -/
theorem Header.isFrom_parse {text : String} {m : PolicyMap}
    (hparse : Header.parse text = .ok m) : m.IsFrom (.text text) := by
  obtain ⟨grants, hread, rfl⟩ := map_eq_ok_iff.mp hparse
  intro feature a ha x hx
  rw [get?_read hread] at ha
  obtain ⟨items, -, rfl⟩ := Option.map_eq_some_iff.mp ha
  obtain ⟨item, -, hitem⟩ := exists_listed?_of_mem_settled hx
  rcases keyword_or_isOrigin_of_listed? hitem with hkeyword | horigin
  · exact Or.inl hkeyword
  · exact Or.inr (Or.inl horigin)

/-- A target of an allow attribute is kept as a keyword or an origin. -/
theorem AllowAttribute.keyword_or_isOrigin_of_target? {target x : String}
    (hx : target? target = some x) :
    (∃ k : Keyword, x = k.text) ∨ IsOrigin x := by
  unfold target? at hx
  split at hx
  next hkeyword =>
    obtain rfl := Option.some.inj hx
    rcases hkeyword with hself | hsrc
    · exact Or.inl ⟨.self, hself⟩
    · exact Or.inl ⟨.src, hsrc⟩
  next => exact Or.inr ⟨target, hx⟩

theorem AllowAttribute.exists_target?_of_mem_allowlist {targets : List String}
    {x : String} (hx : x ∈ (allowlist targets).members) :
    ∃ target ∈ targets, target? target = some x := by
  unfold allowlist at hx
  split at hx
  · exact absurd hx (SortedSet.not_mem_empty x)
  · split at hx
    · exact absurd hx (SortedSet.not_mem_empty x)
    · rw [Allowlist.ofList, Allowlist.members, SortedSet.mem_ofList,
        List.mem_filterMap] at hx
      exact hx

/-- An allow attribute that is read lists keywords and origins. -/
theorem AllowAttribute.isFrom_parse (text : String) :
    (AllowAttribute.parse text).IsFrom (.text text) := by
  intro feature a ha x hx
  have hread : (read text).get? feature = some a := ha
  rw [get?_read] at hread
  obtain ⟨targets, -, rfl⟩ := Option.map_eq_some_iff.mp hread
  obtain ⟨target, -, htarget⟩ := exists_target?_of_mem_allowlist hx
  rcases keyword_or_isOrigin_of_target? htarget with hkeyword | horigin
  · exact Or.inl hkeyword
  · exact Or.inr (Or.inl horigin)

/-! ## Maps whose keywords are resolved -/

variable {page : String} {src : Option String}

/-- A resolved allowlist lists what it listed before, the page and the frame. -/
theorem Allowlist.mem_resolve (hpage : page ≠ Keyword.src.text) {a : Allowlist}
    {x : String} (hx : x ∈ (a.resolve page src).members) :
    x ∈ a.members ∨ x = page ∨ src = some x := by
  cases a with
  | wildcard => exact absurd hx (SortedSet.not_mem_empty x)
  | deny => exact absurd hx (SortedSet.not_mem_empty x)
  | origins set =>
      rw [mem_resolve_origins hpage] at hx
      obtain ⟨-, ⟨hmem, -⟩ | ⟨-, heq⟩ | ⟨hsrc, -⟩⟩ := hx
      · exact Or.inl hmem
      · exact Or.inr (Or.inl heq)
      · exact Or.inr (Or.inr (Option.eq_some_of_filter_eq_some hsrc))

theorem PolicyMap.hasKeywords_eq_false {grants : Grants}
    (hnone : firstUnresolved? grants = none) {feature : String} {a : Allowlist}
    (ha : grants.get? feature = some a) : a.hasKeywords = false := by
  obtain ⟨front, rest, hentries, -⟩ := List.lookup_eq_some_iff.mp ha
  rw [firstUnresolved?_eq_none_iff] at hnone
  apply hnone (feature, a)
  rw [hentries]
  exact List.mem_append_right front List.mem_cons_self

/-- What is stored of a map with resolved keywords. -/
theorem PolicyMap.isStored_resolution {m : PolicyMap}
    {source : Source PolicyMap} (hfrom : m.IsFrom source) (hvalid : m.IsValid)
    (hpage : IsOrigin page) (hsrc : ∀ x, src = some x → IsOrigin x) :
    (m.resolution page src).IsStored source := by
  intro feature a ha
  have hnone : firstUnresolved? (m.resolution page src) = none :=
    (firstUnresolved?_resolution hpage.ne_keyword
      (fun k hk => (hsrc _ hk).ne_keyword k rfl) m).mpr hvalid
  have hkeyword := Allowlist.hasKeywords_eq_false_iff.mp
    (hasKeywords_eq_false hnone ha)
  refine ⟨?_, hkeyword, ?_⟩
  · intro x hx
    have hlisted (b : Allowlist) (hb : m.grants.get? feature = some b)
        (hmem : x ∈ b.members) : IsOrigin x ∨ source.Lists feature x := by
      rcases hfrom feature b hb x hmem with ⟨k, rfl⟩ | hx'
      · exact absurd hx (hkeyword k)
      · exact hx'
    obtain ⟨form, grants⟩ := m
    cases form with
    | normalized => exact hlisted a ha hx
    | parsed =>
        have hget := ha
        rw [resolution, Grants.get?_resolve] at hget
        obtain ⟨b, hb, rfl⟩ := Option.map_eq_some_iff.mp hget
        rcases Allowlist.mem_resolve (hpage.ne_keyword .src) hx with
          hmem | rfl | hframe
        · exact hlisted b hb hmem
        · exact Or.inl hpage
        · exact Or.inl (hsrc x hframe)
  · rintro (rfl | rfl)
    · rfl
    · rfl

/-! ## Policies -/

namespace Policy

theorem isStored_of_readHeader {header : Source PolicyMap} {grants : Grants}
    (hread : readHeader page header = .ok grants) (hpage : IsOrigin page)
    (hvalid : ∀ m, header = .map m → m.IsValid) : grants.IsStored header := by
  have hmap {m : PolicyMap} (hfrom : m.IsFrom header) (hm : m.IsValid)
      (hgrants : readHeader page (.map m) = .ok grants) :
      grants.IsStored header := by
    have hsrc (k : Keyword) : (none : Option String) ≠ some k.text := nofun
    rw [readHeader_map_eq_ok_iff,
      PolicyMap.normalize_eq_ok hpage.ne_keyword hsrc] at hgrants
    have hresolution : m.resolution page none = grants :=
      congrArg PolicyMap.grants (Except.ok.inj hgrants)
    rw [← hresolution]
    exact PolicyMap.isStored_resolution hfrom hm hpage nofun
  cases header with
  | text value =>
      obtain ⟨m, hm, hgrants⟩ := readHeader_text_eq_ok_iff.mp hread
      have hparsed : m.IsValid := by
        obtain ⟨parsed, -, rfl⟩ := map_eq_ok_iff.mp hm
        intro hform
        exact nomatch hform
      exact hmap (Header.isFrom_parse hm) hparsed hgrants
  | map m => exact hmap m.isFrom_map (hvalid m rfl) hread

theorem isStored_of_readFrame {info : FrameInfo PolicyMap} {frame : Frame}
    (hread : readFrame page info = .ok frame) (hpage : IsOrigin page) :
    IsOrigin frame.origin ∧ frame.allow.IsStored info.allow := by
  obtain ⟨horigin, hvalid, hallow⟩ :=
    (readFrame_eq_ok_iff hpage.ne_keyword).mp hread
  have hframe : IsOrigin frame.origin := ⟨info.origin, horigin⟩
  have hfrom : info.attribute.IsFrom info.allow := by
    obtain ⟨url, allow⟩ := info
    cases allow with
    | text value => exact AllowAttribute.isFrom_parse value
    | map m => exact m.isFrom_map
  refine ⟨hframe, hallow ▸ ?_⟩
  apply PolicyMap.isStored_resolution hfrom hvalid hpage
  rintro x ⟨⟩
  exact hframe

/-- A policy that is built stores origins and what is supplied. -/
theorem isStored_of_build {page : Value} {header : Source PolicyMap}
    {defaults : OrderedMap Value} {info? : Option (FrameInfo PolicyMap)}
    {p : Policy} (hok : build page header defaults info? = .ok p)
    (hvalid : ∀ m, header = .map m → m.IsValid) : p.IsStored header info? := by
  obtain ⟨hurl, hheader, -, -⟩ := ofPage_eq_ok_iff.mp (ofPage_of_build hok)
  have hpage := exists_canonical?_of_originOf hurl
  refine ⟨hpage, isStored_of_readHeader hheader hpage hvalid, ?_⟩
  intro f hf
  obtain ⟨info, hinfo, hread⟩ := exists_readFrame_of_build hok hf
  obtain ⟨horigin, hallow⟩ := isStored_of_readFrame hread hpage
  exact ⟨horigin, info, hinfo, hallow⟩

variable {p q : Policy} {header : Source PolicyMap}
  {frame? : Option (FrameInfo PolicyMap)}

/-- A frame that inherits keeps what is stored of the header. -/
theorem IsStored.inherit (h : p.IsStored header frame?)
    {info : FrameInfo PolicyMap} (hok : p.inherit info = .ok q) :
    q.IsStored header (some info) := by
  obtain ⟨hurl, hheader, -, frame, hread, hframe⟩ := inherit_eq_ok hok
  have hpage : IsOrigin q.page := ⟨p.page, hurl⟩
  refine ⟨hpage, hheader ▸ h.header, ?_⟩
  intro f hf
  obtain rfl : frame = f := Option.some.inj (hframe.symm.trans hf)
  obtain ⟨horigin, hallow⟩ := isStored_of_readFrame hread hpage
  exact ⟨horigin, info, rfl, hallow⟩

theorem IsStored.inheritAll (h : p.IsStored header frame?)
    {frames : List (FrameInfo PolicyMap)} (hok : p.inheritAll frames = .ok q) :
    q.IsStored header (frames.getLast?.or frame?) := by
  induction frames generalizing p frame? with
  | nil =>
      obtain rfl := Except.ok.inj hok
      exact h
  | cons info rest ih =>
      obtain ⟨r, hr, hq⟩ := inheritAll_cons_eq_ok_iff.mp hok
      have hlast : (info :: rest).getLast?.or frame? =
          rest.getLast?.or (some info) := by
        rw [List.getLast?_cons]
        cases rest.getLast? with
        | none => rfl
        | some last => rfl
      rw [hlast]
      exact ih (h.inherit hr) hq

/-- However a policy is built, from text or from maps, for a page or along a
chain of frames: it stores origins, and what the maps list besides, but no
keywords. -/
theorem isStored_of_policy {known : Registry}
    {page' header' defaults' frame' : Value}
    (hbuilt : Arguments.policy known page' header' defaults' frame' = .ok p)
    (hvalid : ∀ m, Arguments.header known header' = .ok (.map m) → m.IsValid)
    {frames : List (FrameInfo PolicyMap)}
    (hchain : p.inheritAll frames = .ok q) :
    ∃ source info?, Arguments.header known header' = .ok source ∧
      Arguments.frame known frame' = .ok info? ∧
      q.IsStored source
        (frames.getLast?.or (info?.map (·.mapAllow Held.content))) := by
  obtain ⟨source, values, info?, hsource, -, hinfo, hbuild⟩ :=
    Arguments.exists_build_of_policy hbuilt
  refine ⟨source, info?, hsource, hinfo, ?_⟩
  apply IsStored.inheritAll _ hchain
  apply isStored_of_build hbuild
  rintro m rfl
  exact hvalid m hsource

/-- What the second frame of the page stores. -/
theorem cameraFrames_isStored :
    ∃ q, cameraPage.inheritAll cameraFrames = .ok q ∧
      q.IsStored (.text "camera=(\"https://b.example\")")
        (some { origin := "https://b.example/call"
                allow := .text "camera *" }) := by
  obtain ⟨frame, hchain⟩ :=
    exists_inheritAll canonical?_cameraPage isUsable_cameraFrames
  obtain ⟨source, info?, hsource, -, hstored⟩ :=
    isStored_of_policy policy_cameraPage (fun m hm => nomatch hm) hchain
  obtain rfl := Except.ok.inj hsource
  exact ⟨_, hchain, hstored⟩

/-- A frame whose attribute is a map that names the frame in another way. -/
def spelledFrame : Value :=
  .map [(.text "origin", .text "https://b.example"),
    (.text "allow", .map [(.text "features", .map [(.text "camera",
      .map [(.text "origins", .list [.text "HTTPS://B.example:443"])])])])]

/-- What is stored of the attribute is the spelling, not the origin, and so the
frame does not get the camera. -/
theorem spelledFrame_not_isOrigin :
    ∃ p f a, Arguments.policy Registry.none (.text "https://a.example")
        (.text "") .null spelledFrame = .ok p ∧
      p.frame = some f ∧ f.allow.get? "camera" = some a ∧
      "HTTPS://B.example:443" ∈ a.members ∧
      ¬ IsOrigin "HTTPS://B.example:443" ∧
      canonical? "HTTPS://B.example:443" = some f.origin ∧
      p.allows "camera" (.text f.origin) = false := by
  let a : Allowlist := .ofList ["HTTPS://B.example:443"]
  let f : Frame :=
    { origin := "https://b.example", allow := .ofList [("camera", a)] }
  let p : Policy :=
    { page := "https://a.example", header := ∅, defaults := ∅, frame := some f }
  refine ⟨p, f, a, toOption_eq_some_iff.mp ?_, rfl, ?_, ?_, ?_, ?_, ?_⟩
  · decide
  · decide
  · decide
  · intro h
    exact absurd (h.toLower_of_head? rfl) (by decide)
  · decide
  · decide

end Policy

end FeatureGrant
