import FeatureGrant.Proofs.Policy.Construction

/-!
# Forms of a header and of an allow attribute

A header and an allow attribute may be given as text, as the map that is read
from the text, or as that map in normalized form.  All of them make the same
policy: reading leaves a map alone, and normalizing leaves alone what is in
normalized form.
-/

namespace FeatureGrant

/-- The forms of the header of a page: the text, the map that is read from it,
or that map in normalized form. -/
inductive HeaderForm (known : Registry) (page text : String) : Value → Prop
  | text : HeaderForm known page text (.text text)
  | parsed {n : Nat} {label : String} {m : PolicyMap}
      (hparse : Header.parse text = .ok m) (hknown : known n = .policyMap m) :
      HeaderForm known page text (.object n label)
  | normalized {n : Nat} {label : String} {m m' : PolicyMap}
      (hparse : Header.parse text = .ok m)
      (hnormalize : m.normalize page none = .ok m')
      (hknown : known n = .policyMap m') :
      HeaderForm known page text (.object n label)

/-- The forms of the allow attribute of a frame. -/
inductive AllowForm (known : Registry) (page frame text : String) : Value → Prop
  | text : AllowForm known page frame text (.text text)
  | parsed {n : Nat} {label : String}
      (hknown : known n = .policyMap (AllowAttribute.parse text)) :
      AllowForm known page frame text (.object n label)
  | normalized {n : Nat} {label : String} {m : PolicyMap}
      (hnormalize :
        (AllowAttribute.parse text).normalize page (some frame) = .ok m)
      (hknown : known n = .policyMap m) :
      AllowForm known page frame text (.object n label)

/-- The description of a frame by its URL and its allow attribute. -/
def frameEntries (url : String) (allow : Value) : Value :=
  .map [(.text "origin", .text url), (.text "allow", allow)]

/-- The forms of a described frame: a mapping, or the record that is made from
it. -/
inductive FrameForm (known : Registry) (page frame url text : String) :
    Value → Prop
  | mapping {allow : Value} (hallow : AllowForm known page frame text allow) :
      FrameForm known page frame url text (frameEntries url allow)
  | record {n : Nat} {label : String} {allow : Value} {info : FrameInfo Held}
      (hallow : AllowForm known page frame text allow)
      (hmade : Schema.frameInfo known (frameEntries url allow) = .ok info)
      (hknown : known n = .frameInfo info) :
      FrameForm known page frame url text (.object n label)

variable {known : Registry} {page : String}

/-- Every form of a header is read as the same header. -/
theorem HeaderForm.exists_source {text : String} {v : Value} {grants : Grants}
    (hform : HeaderForm known page text v)
    (hread : Policy.readHeader page (.text text) = .ok grants) :
    ∃ source, Arguments.header known v = .ok source ∧
      Policy.readHeader page source = .ok grants := by
  obtain ⟨m, hm, hgrants⟩ := Policy.readHeader_text_eq_ok_iff.mp hread
  cases hform with
  | text => exact ⟨.text text, rfl, hread⟩
  | parsed hparse hknown =>
      obtain rfl := Except.ok.inj (hm.symm.trans hparse)
      refine ⟨.map m, ?_, hgrants⟩
      simp only [Arguments.header, Registry.instance?, hknown]
  | normalized hparse hnormalize hknown =>
      obtain rfl := Except.ok.inj (hm.symm.trans hparse)
      rw [Policy.readHeader_map_eq_ok_iff] at hgrants
      obtain rfl := Except.ok.inj (hgrants.symm.trans hnormalize)
      refine ⟨.map { form := .normalized, grants }, ?_,
        Policy.readHeader_normalized page grants⟩
      simp only [Arguments.header, Registry.instance?, hknown]

/-- Every form of an allow attribute is accepted in a record, where it stands
for the same map. -/
theorem AllowForm.exists_source {frame text : String} {v : Value}
    (hform : AllowForm known page frame text v) :
    ∃ source, Schema.allowSource known v = .ok source ∧
      ∀ url, let info : FrameInfo PolicyMap :=
        { origin := url, allow := source.mapValue Held.content }
      info.attribute.IsValid ∧
        info.attribute.resolution page (some frame) =
          (AllowAttribute.read text).resolve page (some frame) := by
  have hparsed : (AllowAttribute.parse text).IsValid := fun h => nomatch h
  cases hform with
  | text => exact ⟨.text text, rfl, fun url => ⟨hparsed, rfl⟩⟩
  | parsed hknown =>
      exact ⟨_, Schema.allowSource_object hknown hparsed _,
        fun url => ⟨hparsed, rfl⟩⟩
  | normalized hnormalize hknown =>
      obtain ⟨hnone, rfl⟩ := PolicyMap.normalized_eq_ok_iff.mp hnormalize
      exact ⟨_, Schema.allowSource_object hknown (fun _ => hnone) _,
        fun url => ⟨fun _ => hnone, rfl⟩⟩

/-- Every form of a frame is read as the same frame. -/
theorem FrameForm.exists_info {frame : Frame} {url text : String} {v : Value}
    (hform : FrameForm known page frame.origin url text v)
    (hpage : ∀ k : Keyword, page ≠ k.text)
    (hread : Policy.readFrame page { origin := url, allow := .text text } =
      .ok frame) :
    ∃ info, Arguments.frame known v = .ok (some info) ∧
      Policy.readFrame page (info.mapAllow Held.content) = .ok frame := by
  obtain ⟨horigin, -, hallow⟩ := (Policy.readFrame_eq_ok_iff hpage).mp hread
  have hurl : url ≠ "" := by
    rintro rfl
    have hempty : canonical? "" = none := by decide
    exact nomatch hempty.symm.trans horigin
  have hsource {allow : Value} (h : AllowForm known page frame.origin text allow) :
      ∃ info, Schema.frameInfo known (frameEntries url allow) = .ok info ∧
        Policy.readFrame page (info.mapAllow Held.content) = .ok frame := by
    obtain ⟨source, hsource, hattribute⟩ := h.exists_source
    obtain ⟨hvalid, hresolution⟩ := hattribute url
    refine ⟨_, Schema.frameInfo_map hurl hsource, ?_⟩
    rw [Policy.readFrame_eq_ok_iff hpage]
    exact ⟨horigin, hvalid, hallow.trans hresolution.symm⟩
  cases hform with
  | mapping h =>
      obtain ⟨info, hinfo, hframe⟩ := hsource h
      refine ⟨info, ?_, hframe⟩
      exact bind_eq_ok_iff.mpr ⟨_, rfl,
        bind_eq_ok_iff.mpr ⟨info, mapError_eq_ok_iff.mpr hinfo, rfl⟩⟩
  | record h hmade hknown =>
      obtain ⟨info, hinfo, hframe⟩ := hsource h
      obtain rfl := Except.ok.inj (hinfo.symm.trans hmade)
      refine ⟨info, ?_, hframe⟩
      simp only [Arguments.frame, Registry.instance?, hknown]

/-- The header and the allow attribute may be given in any of their forms: the
policy is the same as if both are given as text. -/
theorem Arguments.policy_of_forms {url header frameUrl allow : String}
    {defaults' : Value} {p : Policy}
    (hbuilt : policy known (.text url) (.text header) defaults'
      (frameEntries frameUrl (.text allow)) = .ok p) :
    ∃ frame, p.frame = some frame ∧ canonical? url = some p.page ∧
      canonical? frameUrl = some frame.origin ∧
      (∃ m, Header.parse header = .ok m ∧
        m.normalize p.page none =
          .ok { form := .normalized, grants := p.header }) ∧
      (AllowAttribute.parse allow).normalize p.page (some frame.origin) =
        .ok { form := .normalized, grants := frame.allow } ∧
      ∀ header' frame', HeaderForm known p.page header header' →
        FrameForm known p.page frame.origin frameUrl allow frame' →
        policy known (.text url) header' defaults' frame' = .ok p := by
  obtain ⟨source, values, info?, hsource, hvalues, hinfo, hbuild⟩ :=
    exists_build_of_policy hbuilt
  obtain rfl := frame_texts hinfo
  obtain rfl : Source.text header = source := Except.ok.inj hsource
  obtain ⟨hpage, hheader, hdefaults, frame, hread, hframe⟩ :=
    Policy.build_some_eq_ok hbuild
  have hcanonical := originOf_text_eq_ok_iff.mp hpage
  have hkeyword := ne_keyword_of_canonical? hcanonical
  obtain ⟨horigin, -, hallow⟩ := (Policy.readFrame_eq_ok_iff hkeyword).mp hread
  obtain ⟨m, hm, hgrants⟩ := Policy.readHeader_text_eq_ok_iff.mp hheader
  refine ⟨frame, hframe, hcanonical, horigin,
    ⟨m, hm, Policy.readHeader_map_eq_ok_iff.mp hgrants⟩, ?_, ?_⟩
  · rw [PolicyMap.normalize_eq_ok hkeyword
      (some_ne_keyword_of_canonical? horigin), hallow]
    rfl
  · intro header' frame' hheader' hframe'
    obtain ⟨source, hsource, hgrants'⟩ := hheader'.exists_source hheader
    obtain ⟨info, hinfo', hread'⟩ := hframe'.exists_info hkeyword hread
    rw [policy_eq_build hsource hvalues hinfo', mapError_eq_ok_iff,
      Option.map_some, Policy.build_some hpage hgrants' hdefaults hread', ← hframe]

/-- The header of a page as it was read, and the normalized allow attribute of
a frame in it. -/
def callForms : Registry
  | 0 => .policyMap
    { form := .parsed
      grants := .ofList [("camera", .ofList ["'self'", "https://b.example"])] }
  | _ => .policyMap
    { form := .normalized
      grants := .ofList [("camera", .ofList ["https://b.example"])] }

/-- A frame of a call in a page that grants it the camera. -/
def callPolicy : Policy where
  page := "https://a.example"
  header := .ofList [("camera", .ofList ["https://a.example", "https://b.example"])]
  defaults := ∅
  frame := some
    { origin := "https://b.example"
      allow := .ofList [("camera", .ofList ["https://b.example"])] }

/-- The two maps make the policy that the two texts make. -/
theorem callPolicy_of_forms :
    Arguments.policy callForms (.text "https://a.example")
        (.text "camera=(self \"https://b.example\")") .null
        (frameEntries "https://b.example" (.text "camera")) = .ok callPolicy ∧
      Arguments.policy callForms (.text "https://a.example") (.object 0 "") .null
        (frameEntries "https://b.example" (.object 1 "")) = .ok callPolicy := by
  have hbuilt : Arguments.policy callForms (.text "https://a.example")
      (.text "camera=(self \"https://b.example\")") .null
      (frameEntries "https://b.example" (.text "camera")) = .ok callPolicy :=
    toOption_eq_some_iff.mp (by decide +kernel)
  obtain ⟨frame, hframe, -, -, -, hallow, hforms⟩ :=
    Arguments.policy_of_forms hbuilt
  obtain rfl := Option.some.inj hframe
  refine ⟨hbuilt, hforms _ _ (.parsed ?_ rfl) (.mapping (.normalized hallow rfl))⟩
  decide +kernel

end FeatureGrant
