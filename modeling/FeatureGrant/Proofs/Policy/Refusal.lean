import FeatureGrant.Proofs.Policy.Defaults
import FeatureGrant.Proofs.Scenario
import FeatureGrant.Proofs.Session.Immutability

/-!
# Why a policy is refused

The arguments of a policy are looked at in order, and the first one that cannot
be used is why there is no policy.  The header and the allow attribute may be
maps: then there is nothing in them that could not be used, except for a keyword
in a map that claims to be resolved.
-/

namespace FeatureGrant

/-- Whether a header can be read: it is a map, or a text that is not
rejected. -/
def Source.IsReadable (header : Source PolicyMap) : Prop :=
  ∀ text, header = .text text → ∃ m, Header.parse text = .ok m

/-- Whether the URL, the header and the defaults of a page can be used. -/
structure IsPage (url : String) (header : Source PolicyMap)
    (values : OrderedMap Value) : Prop where
  url : canonical? url ≠ none
  header : header.IsReadable
  defaults : ∀ entry ∈ values.entries, entry.2.IsDefault

/-- The first of the arguments that cannot be used, and the failure that comes
of it. Those in front of it can be used. -/
inductive FirstUnusable (known : Registry) (url : String)
    (header : Source PolicyMap) (values : OrderedMap Value) (frame' : Value) :
    Failure → Prop
  | url {fault : UrlFault} (hurl : canonicalize url = .error fault) :
      FirstUnusable known url header values frame'
        (InvalidUrl.failure { url, fault })
  | header {text : String} {fault : HeaderFault} (hurl : canonical? url ≠ none)
      (htext : header = .text text) (hparse : Header.parse text = .error fault) :
      FirstUnusable known url header values frame' (fault.failure text)
  | default {feature : String} {value : Value} (hurl : canonical? url ≠ none)
      (hheader : header.IsReadable) (hfirst : IsFirstUnread values feature value) :
      FirstUnusable known url header values frame'
        (.fault (.invalidDefault "" feature value.plain) (some "ValueError"))
  | frame {entries : List (Value × Value)} {violations : List Schema.Violation}
      (hpage : IsPage url header values)
      (hentries : known.entries? frame' = some entries)
      (hshape : Schema.frameInfo known (.map entries) = .error violations) :
      FirstUnusable known url header values frame' (.shape "FrameInfo" violations)
  | frameUrl {entries : List (Value × Value)} {info : FrameInfo Held}
      {fault : UrlFault} (hpage : IsPage url header values)
      (hentries : known.entries? frame' = some entries)
      (hshape : Schema.frameInfo known (.map entries) = .ok info)
      (hurl : canonicalize info.origin = .error fault) :
      FirstUnusable known url header values frame'
        (InvalidUrl.failure { url := info.origin, fault })

/-! ## The parts of a policy -/

namespace Policy

theorem exists_readHeader_iff {page : String}
    (hpage : ∀ k : Keyword, page ≠ k.text) {header : Source PolicyMap} :
    (∃ grants, readHeader page header = .ok grants) ↔ header.IsReadable := by
  constructor
  · rintro ⟨grants, hok⟩ text rfl
    obtain ⟨m, hm, -⟩ := readHeader_text_eq_ok_iff.mp hok
    exact ⟨m, hm⟩
  · intro hreadable
    cases hread : readHeader page header with
    | ok grants => exact ⟨grants, rfl⟩
    | error fault =>
        obtain ⟨text, e, htext, he, -⟩ := (readHeader_eq_error_iff hpage).mp hread
        obtain ⟨m, hm⟩ := hreadable text htext
        cases hm.symm.trans he

variable {url : String} {header : Source PolicyMap} {values : OrderedMap Value}

theorem exists_ofPage_iff :
    (∃ p, ofPage (.text url) header values = .ok p) ↔ IsPage url header values := by
  constructor
  · rintro ⟨p, hp⟩
    obtain ⟨hpage, hheader, hdefaults, -⟩ := ofPage_eq_ok_iff.mp hp
    rw [originOf_text_eq_ok_iff] at hpage
    refine ⟨ne_none_of_canonical? hpage, ?_, ?_⟩
    · exact (exists_readHeader_iff (ne_keyword_of_canonical? hpage)).mp
        ⟨p.header, hheader⟩
    · exact exists_areReadAs_iff.mp
        ⟨p.defaults, readDefaults_eq_ok_iff.mp hdefaults⟩
  · rintro ⟨hurl, hheader, hdefaults⟩
    obtain ⟨page, hpage⟩ := Option.ne_none_iff_exists'.mp hurl
    obtain ⟨grants, hgrants⟩ :=
      (exists_readHeader_iff (ne_keyword_of_canonical? hpage)).mpr hheader
    obtain ⟨defaults, hread⟩ := exists_areReadAs_iff.mpr hdefaults
    exact ⟨{ page, header := grants, defaults, frame := none },
      ofPage_eq_ok_iff.mpr ⟨originOf_text_eq_ok_iff.mpr hpage, hgrants,
        readDefaults_eq_ok_iff.mpr hread, rfl⟩⟩

/-- A page is refused because of its URL, else of its header, else of a
default. -/
theorem ofPage_eq_error_iff {fault : BuildFault} :
    ofPage (.text url) header values = .error fault ↔
      (∃ e, canonicalize url = .error e ∧
        fault = .pageUrl { url, fault := e }) ∨
      (canonical? url ≠ none ∧ ∃ text e, header = .text text ∧
        Header.parse text = .error e ∧ fault = .header text e) ∨
      (canonical? url ≠ none ∧ header.IsReadable ∧
        ∃ feature value, IsFirstUnread values feature value ∧
          fault = .default { feature, value }) := by
  have hstages : ofPage (.text url) header values = .error fault ↔
      (∃ e, originOf (.text url) = .error e ∧ .pageUrl e = fault) ∨
      ∃ page, canonical? url = some page ∧
        (readHeader page header = .error fault ∨
          ∃ grants, readHeader page header = .ok grants ∧
            readDefaults values = .error fault) := by
    simp only [ofPage, bind_eq_error_iff, mapError_eq_error_iff,
      mapError_eq_ok_iff, originOf_text_eq_ok_iff, reduceCtorEq, and_false,
      exists_false, or_false]
  rw [hstages]
  constructor
  · rintro (⟨e, he, rfl⟩ | ⟨page, hpage, hrest⟩)
    · obtain ⟨fault, hfault, rfl⟩ := originOf_text_eq_error_iff.mp he
      exact Or.inl ⟨fault, hfault, rfl⟩
    have hkey := ne_keyword_of_canonical? hpage
    have hurl := ne_none_of_canonical? hpage
    rcases hrest with hheader | ⟨grants, hgrants, hread⟩
    · exact Or.inr (Or.inl ⟨hurl, (readHeader_eq_error_iff hkey).mp hheader⟩)
    · have hreadable := (exists_readHeader_iff hkey).mp ⟨grants, hgrants⟩
      exact Or.inr (Or.inr
        ⟨hurl, hreadable, readDefaults_eq_error_iff.mp hread⟩)
  · rintro (⟨e, he, rfl⟩ | ⟨hurl, hheader⟩ | ⟨hurl, hreadable, hread⟩)
    · exact Or.inl ⟨_, originOf_text_eq_error_iff.mpr ⟨e, he, rfl⟩, rfl⟩
    · obtain ⟨page, hpage⟩ := Option.ne_none_iff_exists'.mp hurl
      have hkey := ne_keyword_of_canonical? hpage
      exact Or.inr ⟨page, hpage, Or.inl ((readHeader_eq_error_iff hkey).mpr hheader)⟩
    · obtain ⟨page, hpage⟩ := Option.ne_none_iff_exists'.mp hurl
      have hkey := ne_keyword_of_canonical? hpage
      obtain ⟨grants, hgrants⟩ := (exists_readHeader_iff hkey).mpr hreadable
      exact Or.inr ⟨page, hpage,
        Or.inr ⟨grants, hgrants, readDefaults_eq_error_iff.mpr hread⟩⟩

theorem withFrame_eq_error_iff {p : Policy}
    (hpage : ∀ k : Keyword, p.page ≠ k.text) {info : FrameInfo PolicyMap}
    (hvalid : info.attribute.IsValid) {fault : BuildFault} :
    p.withFrame info = .error fault ↔
      ∃ e, canonicalize info.origin = .error e ∧
        fault = .frameUrl { url := info.origin, fault := e } := by
  rw [← readFrame_eq_error_iff hpage hvalid, withFrame, bind_eq_error_iff]
  simp

end Policy

/-! ## The first argument that cannot be used -/

namespace Arguments

variable {known : Registry} {url : String} {header' defaults' frame' : Value}
  {source : Source PolicyMap} {values : OrderedMap Value}

theorem frame_of_entries {entries : List (Value × Value)}
    (hentries : known.entries? frame' = some entries) :
    frame known frame' =
      ((Schema.frameInfo known (.map entries)).map some).mapError
        (.shape "FrameInfo") := by
  have hmap : frame known frame' =
      (Schema.frameInfo known (.map entries)).mapError (.shape "FrameInfo") >>=
        fun info => .ok (some info) := by
    cases frame' with
    | map fields =>
        obtain rfl := Option.some.inj hentries
        rfl
    | object n label =>
        cases hobject : known n with
        | mapping typeName fields =>
            simp only [Registry.entries?, hobject] at hentries
            obtain rfl := Option.some.inj hentries
            simp only [frame, Registry.instance?, Arguments.entries, hobject,
              Instance.fields?]
            rfl
        | _ => simp [Registry.entries?, hobject] at hentries
    | _ => cases hentries
  rw [hmap]
  cases Schema.frameInfo known (.map entries) with
  | error violations => rfl
  | ok info => rfl

theorem isValid_of_frameInfo {entries : List (Value × Value)}
    {info : FrameInfo Held}
    (hinfo : Schema.frameInfo known (.map entries) = .ok info) :
    (info.mapAllow Held.content).attribute.IsValid := by
  have hfresh : ∀ held,
      known.instance? (.map entries) ≠ .frameInfo held := nofun
  exact (Schema.isChecked_of_frameInfo hfresh hinfo).allow

/-- A policy is refused because of the first argument that cannot be used. -/
theorem policy_eq_error_iff (hheader : header known header' = .ok source)
    (hdefaults : defaults known defaults' = .ok values)
    (hframe : frame' = .null ∨ known.entries? frame' ≠ none)
    {failure : Failure} :
    policy known (.text url) header' defaults' frame' = .error failure ↔
      FirstUnusable known url source values frame' failure := by
  rw [policy_eq_bind hheader hdefaults, bind_eq_error_iff, mapError_eq_error_iff]
  simp only [mapError_eq_ok_iff]
  constructor
  · rintro (⟨fault, hfault, rfl⟩ | ⟨p, hp, hrest⟩)
    · rcases Policy.ofPage_eq_error_iff.mp hfault with
        ⟨e, he, rfl⟩ | ⟨hurl, text, e, htext, he, rfl⟩ |
          ⟨hurl, hreadable, feature, value, hfirst, rfl⟩
      · exact .url he
      · exact .header hurl htext he
      · exact .default hurl hreadable hfirst
    · have hpage := Policy.exists_ofPage_iff.mp ⟨p, hp⟩
      have hkey := ne_keyword_of_canonical?
        (originOf_text_eq_ok_iff.mp (Policy.ofPage_eq_ok_iff.mp hp).1)
      rcases hframe with rfl | hsome
      · cases hrest
      · obtain ⟨entries, hentries⟩ := Option.ne_none_iff_exists'.mp hsome
        rw [frame_of_entries hentries] at hrest
        cases hinfo : Schema.frameInfo known (.map entries) with
        | error violations =>
            rw [hinfo] at hrest
            obtain rfl := Except.error.inj hrest
            exact .frame hpage hentries hinfo
        | ok info =>
            rw [hinfo] at hrest
            obtain ⟨fault, hfault, rfl⟩ := mapError_eq_error_iff.mp hrest
            obtain ⟨e, he, rfl⟩ := (Policy.withFrame_eq_error_iff hkey
              (isValid_of_frameInfo hinfo)).mp hfault
            exact .frameUrl hpage hentries hinfo he
  · intro hfirst
    cases hfirst with
    | url he =>
        exact Or.inl ⟨_, Policy.ofPage_eq_error_iff.mpr (Or.inl ⟨_, he, rfl⟩), rfl⟩
    | header hurl htext he =>
        exact Or.inl ⟨_, Policy.ofPage_eq_error_iff.mpr
          (Or.inr (Or.inl ⟨hurl, _, _, htext, he, rfl⟩)), rfl⟩
    | default hurl hreadable hfirst =>
        exact Or.inl ⟨_, Policy.ofPage_eq_error_iff.mpr
          (Or.inr (Or.inr ⟨hurl, hreadable, _, _, hfirst, rfl⟩)), rfl⟩
    | frame hpage hentries hinfo =>
        obtain ⟨p, hp⟩ := Policy.exists_ofPage_iff.mpr hpage
        refine Or.inr ⟨p, hp, ?_⟩
        rw [frame_of_entries hentries, hinfo]
        rfl
    | frameUrl hpage hentries hinfo he =>
        obtain ⟨p, hp⟩ := Policy.exists_ofPage_iff.mpr hpage
        have hkey := ne_keyword_of_canonical?
          (originOf_text_eq_ok_iff.mp (Policy.ofPage_eq_ok_iff.mp hp).1)
        refine Or.inr ⟨p, hp, ?_⟩
        rw [frame_of_entries hentries, hinfo]
        exact mapError_eq_error_iff.mpr ⟨_, (Policy.withFrame_eq_error_iff hkey
          (isValid_of_frameInfo hinfo)).mpr ⟨_, he, rfl⟩, rfl⟩

/-! ## Maps that need not be looked at -/

/-- Whether a value is an allow attribute: a text, or a map that is held and may
be used. -/
inductive IsAllow (known : Registry) : Value → Prop
  | text (s : String) : IsAllow known (.text s)
  | map {n : Nat} {m : PolicyMap} (hm : known n = .policyMap m)
      (hvalid : m.IsValid) (label : String) : IsAllow known (.object n label)

theorem IsAllow.exists_source {allow : Value} (hallow : IsAllow known allow) :
    ∃ source, Schema.allowSource known allow = .ok source := by
  cases hallow with
  | text s => exact ⟨.text s, rfl⟩
  | map hm hvalid label => exact ⟨_, Schema.allowSource_object hm hvalid label⟩

/-- Without its allow attribute a frame is refused for the same reasons, or has
the same URL. -/
theorem frameInfo_without_allow {entries : List (Value × Value)} {allow : Value}
    (hfield : Schema.field? "allow" entries = some allow)
    (hallow : IsAllow known allow) :
    (Schema.frameInfo known (.map (Schema.without "allow" entries))).map
        (·.origin) =
      (Schema.frameInfo known (.map entries)).map (·.origin) := by
  obtain ⟨source, hsource⟩ := hallow.exists_source
  have hpresent : Schema.optional "allow" (.text "") (Schema.allowSource known)
      entries = .ok source := by
    rw [Schema.optional, hfield]
    exact Schema.under_eq_ok_iff.mpr hsource
  have habsent : Schema.optional "allow" (.text "") (Schema.allowSource known)
      (Schema.without "allow" entries) = .ok (.text "") := by
    rw [Schema.optional, Schema.field?_without_self]
  have horigin : Schema.field? "origin" (Schema.without "allow" entries) =
      Schema.field? "origin" entries :=
    Schema.field?_without_of_ne (by decide) entries
  rw [Schema.frameInfo_map_eq hpresent, Schema.frameInfo_map_eq habsent,
    Schema.required_congr horigin, Schema.extras_without (by decide)]
  cases Schema.both (Schema.required "origin" Schema.nonemptyText entries)
      (Schema.extras ["origin", "allow"] entries) with
  | error violations => rfl
  | ok fields => rfl

/-- All that counts of a frame is whether it is refused, and its URL. -/
theorem firstUnusable_of_frame {frame'' : Value}
    {entries entries' : List (Value × Value)} {failure : Failure}
    (hfirst : FirstUnusable known url source values frame' failure)
    (hentries : known.entries? frame' = some entries)
    (hentries' : known.entries? frame'' = some entries')
    (hsame : (Schema.frameInfo known (.map entries')).map (·.origin) =
      (Schema.frameInfo known (.map entries)).map (·.origin)) :
    FirstUnusable known url source values frame'' failure := by
  cases hfirst with
  | url he => exact .url he
  | header hurl htext he => exact .header hurl htext he
  | default hurl hreadable hunread => exact .default hurl hreadable hunread
  | frame hpage hfound hshape =>
      obtain rfl := Option.some.inj (hfound.symm.trans hentries)
      rw [hshape] at hsame
      cases hshape' : Schema.frameInfo known (.map entries') with
      | error violations =>
          rw [hshape'] at hsame
          obtain rfl := Except.error.inj hsame
          exact .frame hpage hentries' hshape'
      | ok info =>
          rw [hshape'] at hsame
          cases hsame
  | @frameUrl found info fault hpage hfound hshape he =>
      obtain rfl := Option.some.inj (hfound.symm.trans hentries)
      rw [hshape] at hsame
      obtain ⟨info', hinfo', horigin⟩ := map_eq_ok_iff.mp hsame
      have hurl : info'.origin = info.origin := horigin
      rw [← hurl] at he ⊢
      exact .frameUrl hpage hentries' hinfo' he

/-- A header that is a map is never why a policy is refused, so any other map
may take its place. -/
theorem firstUnusable_of_map {m : PolicyMap} {failure : Failure}
    (hfirst : FirstUnusable known url (.map m) values frame' failure)
    (m' : PolicyMap) :
    FirstUnusable known url (.map m') values frame' failure := by
  have hpage (h : IsPage url (.map m) values) : IsPage url (.map m') values :=
    ⟨h.url, nofun, h.defaults⟩
  cases hfirst with
  | url he => exact .url he
  | header hurl htext he => cases htext
  | default hurl hreadable hunread => exact .default hurl nofun hunread
  | frame h hentries hshape => exact .frame (hpage h) hentries hshape
  | frameUrl h hentries hshape he => exact .frameUrl (hpage h) hentries hshape he

/-- A policy is refused if and only if one of its arguments cannot be used, and
the failure is that of the first one.  An allow attribute that is a text or a
map that may be used changes nothing about it, and neither does the header if it
is a map. -/
theorem policy_refused_iff (hheader : header known header' = .ok source)
    (hdefaults : defaults known defaults' = .ok values)
    (hframe : frame' = .null ∨ known.entries? frame' ≠ none) :
    (∀ failure, policy known (.text url) header' defaults' frame' =
        .error failure ↔ FirstUnusable known url source values frame' failure) ∧
    (∀ entries allow, known.entries? frame' = some entries →
      Schema.field? "allow" entries = some allow → IsAllow known allow →
        ∀ failure,
          policy known (.text url) header' defaults' frame' = .error failure ↔
            policy known (.text url) header' defaults'
              (.map (Schema.without "allow" entries)) = .error failure) ∧
    ∀ (m m' : PolicyMap) (header'' : Value), source = .map m →
      header known header'' = .ok (.map m') →
        ∀ failure,
          policy known (.text url) header' defaults' frame' = .error failure ↔
            policy known (.text url) header'' defaults' frame' =
              .error failure := by
  refine ⟨?_, ?_, ?_⟩
  · intro failure
    exact policy_eq_error_iff hheader hdefaults hframe
  · intro entries allow hentries hfield hallow failure
    have hmap : known.entries? (.map (Schema.without "allow" entries)) ≠ none :=
      nofun
    rw [policy_eq_error_iff hheader hdefaults hframe,
      policy_eq_error_iff hheader hdefaults (Or.inr hmap)]
    have hsame := frameInfo_without_allow hfield hallow
    constructor
    · intro hfirst
      exact firstUnusable_of_frame hfirst hentries rfl hsame
    · intro hfirst
      exact firstUnusable_of_frame hfirst rfl hentries hsame.symm
  · rintro m m' header'' rfl hother failure
    rw [policy_eq_error_iff hheader hdefaults hframe,
      policy_eq_error_iff hother hdefaults hframe]
    constructor
    · intro hfirst
      exact firstUnusable_of_map hfirst m'
    · intro hfirst
      exact firstUnusable_of_map hfirst m

/-- A default is misspelled and the frame has no URL: the default is the
failure. -/
theorem misspelledDefault_refused :
    policy .none (.text "https://a.example/start") (.text "camera=(self)")
        (.map [(.text "camera", .text "self"),
          (.text "fullscreen", .text "everyone")])
        (.map [(.text "allow", .text "camera")]) =
      .error (.fault (.invalidDefault "" "fullscreen" "everyone")
        (some "ValueError")) := by
  have hframe : Registry.none.entries?
      (.map [(.text "allow", .text "camera")]) ≠ none := nofun
  have hself : (Value.text "self").IsDefault :=
    Default.ofValue?_ne_none_iff.mp (by decide)
  have hunread : ¬(Value.text "everyone").IsDefault := by
    rw [← Default.ofValue?_ne_none_iff]
    decide
  have hparse : (Header.parse "camera=(self)").toOption ≠ none := by
    decide +kernel
  have hreadable : (Source.text "camera=(self)").IsReadable := by
    intro text htext
    obtain rfl := Source.text.inj htext
    obtain ⟨m, hm⟩ := Option.ne_none_iff_exists'.mp hparse
    exact ⟨m, toOption_eq_some_iff.mp hm⟩
  have hfirst : IsFirstUnread (.ofList [("camera", .text "self"),
      ("fullscreen", .text "everyone")]) "fullscreen" (.text "everyone") := by
    refine ⟨[("camera", .text "self")], [], rfl, ?_, hunread⟩
    intro entry hentry
    obtain rfl := List.mem_singleton.mp hentry
    exact hself
  exact ((policy_refused_iff rfl rfl (Or.inr hframe)).1 _).mpr
    (.default (by decide) hreadable hfirst)

end Arguments

namespace Session.State

/-- A map of normalized form into which a keyword is written. -/
def keywordSteps : List Step :=
  [.make (some "map") (.policyMap .normalized) (.map []),
    .set "map" "camera" (.map [(.text "kind", .text "origins"),
      (.text "origins", .list [.text "'self'"])])]

/-- With this map as its allow attribute a frame is refused that is fine without
it. -/
theorem policy_refused_for_keyword :
    ∃ s : State, s.Reachable ∧
      let step fields := s.step (.policy none (.text "https://a.example")
        (.text "") .null
        (.map ((.text "origin", .text "https://b.example") :: fields)))
      (∃ violations,
        step [(.text "allow", .map [(.text "ref", .text "map")])] =
          (s, .error (.shape "FrameInfo" violations))) ∧
      ∃ p, (step []).2 = .ok (.policy p) := by
  refine ⟨empty.after keywordSteps, ⟨keywordSteps, by decide, rfl⟩,
    ⟨_, rfl⟩, _, rfl⟩

end Session.State

end FeatureGrant
