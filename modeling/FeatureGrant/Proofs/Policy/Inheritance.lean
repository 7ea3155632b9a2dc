import FeatureGrant.Proofs.Policy.Ruling

/-!
# Inheritance

A policy that a frame inherits is built anew from the page, the header and the
defaults of another one.  The header and the defaults come back as they were,
so along a chain of frames of any length the header of the first policy goes on
to bound what is allowed.
-/

namespace FeatureGrant

theorem Default.ofValue?_text (d : Default) :
    Default.ofValue? (.text d.text) = some d := by
  cases d with
  | wildcard => rfl
  | self => rfl
  | src => rfl
  | none => rfl

namespace Policy

/-- Defaults are read from their texts. -/
theorem readDefaults_texts (defaults : OrderedMap Default) :
    readDefaults (defaults.map fun d => .text d.text) = .ok defaults := by
  apply OrderedMap.traverse_map
  intro feature d
  rw [Default.ofValue?_text]

theorem readDefaults_defaultValues (p : Policy) :
    readDefaults p.defaultValues = .ok p.defaults :=
  readDefaults_texts p.defaults

/-- An inherited policy has the same header and defaults, the origin that its
page has as a URL, and the frame that is described. -/
theorem inherit_eq_ok {p q : Policy} {info : FrameInfo PolicyMap}
    (hok : p.inherit info = .ok q) :
    canonical? p.page = some q.page ∧ q.header = p.header ∧
      q.defaults = p.defaults ∧
      ∃ frame, readFrame q.page info = .ok frame ∧ q.frame = some frame := by
  obtain ⟨hpage, hheader, hdefaults, hframe⟩ := build_some_eq_ok hok
  rw [readHeader_normalized] at hheader
  rw [readDefaults_defaultValues] at hdefaults
  exact ⟨originOf_text_eq_ok_iff.mp hpage, (Except.ok.inj hheader).symm,
    (Except.ok.inj hdefaults).symm, hframe⟩

/-- A page whose origin is canonical is built anew from its origin, its header
and its defaults. -/
theorem ofPage_again {p : Policy} (hpage : canonical? p.page = some p.page) :
    ofPage (.text p.page) (.map { form := .normalized, grants := p.header })
        p.defaultValues = .ok { p with frame := none } :=
  ofPage_eq_ok_iff.mpr ⟨originOf_text_eq_ok_iff.mpr hpage,
    readHeader_normalized p.page p.header, readDefaults_defaultValues p, rfl⟩

/-- In such a page, a frame takes the place of the frame that was there. -/
theorem inherit_eq_withFrame {p : Policy}
    (hpage : canonical? p.page = some p.page) (info : FrameInfo PolicyMap) :
    p.inherit info = p.withFrame info := by
  rw [inherit, build, ofPage_again hpage]
  rfl

theorem exists_withFrame {p : Policy} (hpage : ∀ k : Keyword, p.page ≠ k.text)
    {info : FrameInfo PolicyMap} (hinfo : info.IsUsable) :
    ∃ frame, p.withFrame info = .ok { p with frame := some frame } := by
  obtain ⟨horigin, hvalid⟩ := hinfo
  obtain ⟨origin, horigin⟩ := Option.ne_none_iff_exists'.mp horigin
  let frame : Frame :=
    { origin, allow := info.attribute.resolution p.page (some origin) }
  have hread : readFrame p.page info = .ok frame :=
    (readFrame_eq_ok_iff hpage).mpr ⟨horigin, hvalid, rfl⟩
  exact ⟨frame, withFrame_eq_ok_iff.mpr ⟨frame, hread, rfl⟩⟩

/-- The policy of the last of a chain of frames, each of which inherits from
the policy of the one before it. -/
def inheritAll : Policy → List (FrameInfo PolicyMap) → Except BuildFault Policy
  | p, [] => .ok p
  | p, info :: rest => do
    let q ← p.inherit info
    q.inheritAll rest

theorem inheritAll_cons_eq_ok_iff {p q : Policy} {info : FrameInfo PolicyMap}
    {rest : List (FrameInfo PolicyMap)} :
    p.inheritAll (info :: rest) = .ok q ↔
      ∃ r, p.inherit info = .ok r ∧ r.inheritAll rest = .ok q :=
  bind_eq_ok_iff

theorem inheritAll_append (p : Policy) (frames more : List (FrameInfo PolicyMap)) :
    p.inheritAll (frames ++ more) =
      p.inheritAll frames >>= fun q => q.inheritAll more := by
  induction frames generalizing p with
  | nil => rfl
  | cons info rest ih =>
      rw [List.cons_append, inheritAll, inheritAll]
      cases p.inherit info with
      | error fault => rfl
      | ok q => exact ih q

/-- A chain of usable frames leaves the page, the header and the defaults as
they are. -/
theorem exists_inheritAll {p : Policy}
    (hpage : canonical? p.page = some p.page)
    {frames : List (FrameInfo PolicyMap)}
    (hframes : ∀ info ∈ frames, info.IsUsable) :
    ∃ frame, p.inheritAll frames = .ok { p with frame } := by
  induction frames generalizing p with
  | nil => exact ⟨p.frame, rfl⟩
  | cons info rest ih =>
      obtain ⟨hinfo, hrest⟩ := List.forall_mem_cons.mp hframes
      obtain ⟨frame, hfirst⟩ :=
        exists_withFrame (ne_keyword_of_canonical? hpage) hinfo
      rw [← inherit_eq_withFrame hpage] at hfirst
      obtain ⟨last, hlast⟩ :=
        ih (p := { p with frame := some frame }) hpage hrest
      exact ⟨last, inheritAll_cons_eq_ok_iff.mpr ⟨_, hfirst, hlast⟩⟩

theorem header_of_inheritAll {p q : Policy}
    {frames : List (FrameInfo PolicyMap)} (hok : p.inheritAll frames = .ok q) :
    q.header = p.header := by
  induction frames generalizing p with
  | nil =>
      obtain rfl := Except.ok.inj hok
      rfl
  | cons info rest ih =>
      obtain ⟨r, hr, hq⟩ := inheritAll_cons_eq_ok_iff.mp hok
      rw [ih hq, (inherit_eq_ok hr).2.1]

/-! ## What a mentioned feature needs -/

/-- Whatever is allowed of a feature that the header mentions is allowed by
the header. -/
theorem header_allows_of_rule {p : Policy} {feature checked : String}
    {a : Allowlist} (ha : p.header.get? feature = some a)
    (hallowed : (p.rule feature checked).allowed = true) :
    a.allows checked = true := by
  rw [rule_allowed_of_mentions (mentions_of_header ha), Bool.and_eq_true, ha] at hallowed
  exact hallowed.1

/-- In a page without a frame the header alone decides about the features that
it mentions. -/
theorem rule_allowed_of_frame_eq_none {p : Policy} (htop : p.frame = none)
    {feature checked : String} {a : Allowlist}
    (ha : p.header.get? feature = some a) :
    (p.rule feature checked).allowed = a.allows checked := by
  rw [rule_allowed_of_mentions (mentions_of_header ha), ha, htop, Option.all_some,
    Option.all_none, Bool.and_true]

/-- Frames can only narrow what the header of the page grants. -/
theorem allows_of_allows_inheritAll {p q : Policy}
    {frames : List (FrameInfo PolicyMap)} (htop : p.frame = none)
    (hchain : p.inheritAll frames = .ok q) {feature : String}
    (hmentioned : p.header.get? feature ≠ none) {origin : Value}
    (horigin : origin.isFalsy = false)
    (hallows : q.allows feature origin = true) :
    p.allows feature origin = true := by
  obtain ⟨a, ha⟩ := Option.ne_none_iff_exists'.mp hmentioned
  obtain ⟨checked, hchecked, hallowed⟩ := allows_eq_true_iff.mp hallows
  rw [q.checked?_of_isFalsy_eq_false horigin,
    ← p.checked?_of_isFalsy_eq_false horigin] at hchecked
  have hheader : q.header.get? feature = some a := by
    rw [header_of_inheritAll hchain, ha]
  rw [allows_eq_true_iff]
  refine ⟨checked, hchecked, ?_⟩
  rw [rule_allowed_of_frame_eq_none htop ha]
  exact header_allows_of_rule hheader hallowed

/-- A page that gives its camera to one other origin. -/
def cameraPage : Policy where
  page := "https://a.example"
  header := .ofList [("camera", .origins (.ofList ["https://b.example"]))]
  defaults := ∅
  frame := none

/-- A chain of two frames in the page, the second of which asks for the
camera. -/
def cameraFrames : List (FrameInfo PolicyMap) :=
  [{ origin := "https://c.example"
     allow := .map { form := .normalized, grants := ∅ } },
    { origin := "https://b.example/call", allow := .text "camera *" }]

theorem policy_cameraPage :
    Arguments.policy Registry.none (.text "https://a.example/start")
      (.text "camera=(\"https://b.example\")") .null .null = .ok cameraPage :=
  toOption_eq_some_iff.mp (by decide +kernel)

theorem canonical?_cameraPage :
    canonical? cameraPage.page = some cameraPage.page := by
  decide

theorem isUsable_cameraFrames : ∀ info ∈ cameraFrames, info.IsUsable := by
  decide

/-- What the second frame may do its page allows as well. -/
theorem cameraPage_allows_of_cameraFrames :
    cameraPage.allows "camera" (.text "https://b.example") = true := by
  have hchain : (cameraPage.inheritAll cameraFrames).toOption.map
      (·.allows "camera" (.text "https://b.example")) = some true := by
    decide
  obtain ⟨q, hq, hallows⟩ := Option.map_eq_some_iff.mp hchain
  exact allows_of_allows_inheritAll rfl (toOption_eq_some_iff.mp hq)
    (by decide) (by decide) hallows

end Policy

/-! ## Frames of any shape -/

/-- Building from values that stand for the page, the header and the defaults
of `p`, and from a frame of any shape. -/
theorem Arguments.policy_again {known : Registry} {p : Policy}
    {n : Nat}
    (hheader : known n = .policyMap { form := .normalized, grants := p.header })
    {frame' : Value} {info? : Option (FrameInfo Held)}
    (hframe : Arguments.frame known frame' = .ok info?) (label : String) :
    Arguments.policy known (.text p.page) (.object n label)
        (.map (p.defaultValues.entries.map fun entry =>
          (.text entry.1, entry.2))) frame' =
      (Policy.build (.text p.page)
        (.map { form := .normalized, grants := p.header }) p.defaultValues
        (info?.map (·.mapAllow Held.content))).mapError BuildFault.failure := by
  have hsource : header known (.object n label) =
      .ok (.map { form := .normalized, grants := p.header }) := by
    simp only [header, Registry.instance?, hheader]
  exact policy_eq_build hsource (defaults_map p.defaultValues) hframe

end FeatureGrant
