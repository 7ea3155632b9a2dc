import FeatureGrant.Proofs.Session.Inheritance

/-!
# Frames that take each other's place

Inheriting is building directly: a chain of frames ends in the policy that is
built from the arguments of the first policy and the last frame.  A frame whose
URL has no origin changes nothing, and a policy that is built from its own
properties is the same again.
-/

namespace FeatureGrant

namespace Arguments

variable {known : Registry} {p : Policy}

/-- A frame that a policy gives out is read as the description of itself. -/
theorem frame_frameContext {k m : Nat} {origin : String} {content : PolicyMap}
    (hframe : known k = .frameContext origin (.shared m content))
    (hmap : known m = .policyMap content) (hvalid : content.IsValid)
    (horigin : origin ≠ "") (label : String) :
    frame known (.object k label) =
      .ok (some { origin, allow := .map (.shared m content) }) := by
  have hentries : entries known (.object k label) =
      .ok [(.text "origin", .text origin), (.text "allow", .object m "")] := by
    simp only [entries, hframe, Instance.fields?, Held.value]
  have hinfo := Schema.frameInfo_map horigin
    (Schema.allowSource_object hmap hvalid "")
  simp only [frame, Registry.instance?, hframe]
  exact bind_eq_ok_iff.mpr ⟨_, hentries,
    bind_eq_ok_iff.mpr ⟨_, mapError_eq_ok_iff.mpr hinfo, rfl⟩⟩

/-- What the frame of a policy is given out as: nothing, or an object that
refers to a map of its own. -/
def GivesOut (known : Registry) : Option Frame → Value → Prop
  | none, v => v = .null
  | some f, v =>
    ∃ k label m, v = .object k label ∧
      known k = .frameContext f.origin
        (.shared m { form := .normalized, grants := f.allow }) ∧
      known m = .policyMap { form := .normalized, grants := f.allow }

/-- A policy that is built from its own properties is the same again. -/
theorem policy_of_givesOut (hpage : canonical? p.page = some p.page)
    (hframe : ∀ f, p.frame = some f → canonical? f.origin = some f.origin ∧
      PolicyMap.firstUnresolved? f.allow = none)
    {n : Nat} {frame' : Value}
    (hheader : known n = .policyMap { form := .normalized, grants := p.header })
    (hgiven : GivesOut known p.frame frame') (label : String) :
    policy known (.text p.page) (.object n label)
        (.map (p.defaultValues.entries.map fun entry =>
          (.text entry.1, entry.2))) frame' = .ok p := by
  cases hp : p.frame with
  | none =>
      rw [hp] at hgiven
      obtain rfl : frame' = .null := hgiven
      have hsame : ({ p with frame := none } : Policy) = p := by
        rw [← hp]
      have hnull : frame known .null = .ok none := rfl
      rw [policy_again hheader hnull, Option.map_none,
        Policy.build, Policy.ofPage_again hpage, hsame]
      rfl
  | some f =>
      rw [hp] at hgiven
      obtain ⟨k, label', m, rfl, hcontext, hmap⟩ := hgiven
      obtain ⟨horigin, hnone⟩ := hframe f hp
      have hinfo := frame_frameContext hcontext hmap (fun _ => hnone)
        (ne_empty_of_canonical? horigin) label'
      have hread : Policy.readFrame p.page
          { origin := f.origin
            allow := .map { form := .normalized, grants := f.allow } } =
            .ok f :=
        (Policy.readFrame_eq_ok_iff (ne_keyword_of_canonical? hpage)).mpr
          ⟨horigin, fun _ => hnone, rfl⟩
      have hsame : p = { p with frame := some f } := by
        rw [← hp]
      rw [policy_again hheader hinfo, Option.map_some, ← Policy.inherit,
        Policy.inherit_eq_withFrame hpage, mapError_eq_ok_iff]
      exact Policy.withFrame_eq_ok_iff.mpr ⟨f, hread, hsame⟩

end Arguments

namespace Session

/-- A value that refers to what a name stands for. -/
def reference (name : String) : Value := .map [(.text "ref", .text name)]

/-- Steps that name the properties of a policy. -/
def takeApart (of : String) : List Step :=
  [.get (some "origin") of .origin, .get (some "header") of .header,
    .get (some "defaults") of .defaults, .get (some "frame") of .frame]

/-- The step that builds a policy from these properties. -/
def putTogether (name : Option String) : Step :=
  .policy name (reference "origin") (reference "header") (reference "defaults")
    (reference "frame")

namespace State

variable {s : State}

theorem resolve_reference (name : String) :
    s.resolve (reference name) = (s.lookup name).map s.valueOf := by
  rw [reference, resolve]

theorem step_get_fst {of : String} {n : Nat} {p : LivePolicy}
    (hname : s.names.get? of = some (.object n))
    (hp : s.policyAt? n = some p) (name : Option String) (wanted : Property) :
    (s.step (.get name of wanted)).1 = (s.property name n p wanted).1 := by
  have hnamed : s.namedPolicy of "header" = .ok (n, p) :=
    namedPolicy_eq_ok_iff.mpr ⟨hname, hp⟩
  simp only [State.step, perform, hnamed]
  rfl

/-- The objects that the properties of a policy are given out as. -/
def copies (s : State) (p : LivePolicy) : List Content :=
  .policyMap (s.mapAt p.header) ::
    match p.frame with
    | none => []
    | some (origin, allow) =>
      [.policyMap (s.mapAt allow), .frameContext origin (s.objects.length + 1)]

/-- What the frame of a policy is given out as. -/
def frameRef (s : State) (p : LivePolicy) : Ref :=
  match p.frame with
  | none => .nothing
  | some _ => .object (s.objects.length + 2)

theorem get?_names_bind (s : State) (name other : String) (ref : Ref) :
    (s.bind (some name) ref).names.get? other =
      if other = name then some ref else s.names.get? other :=
  OrderedMap.get?_insert s.names name other ref

theorem policyAt?_append {n : Nat} {p : LivePolicy}
    (hp : s.policyAt? n = some p) (contents : List Content) :
    (s.append contents).policyAt? n = some p := by
  rw [policyAt?_eq_some_iff] at hp ⊢
  exact append_getElem? hp

/-- The state in which the properties of a policy are named. -/
def takenApart (s : State) (n : Nat) (p : LivePolicy) : State :=
  ((((s.append (s.copies p)).bind (some "origin") (.originOf n)).bind
    (some "header") (.object s.objects.length)).bind
    (some "defaults") (.defaultsOf n)).bind (some "frame") (s.frameRef p)

/-- Each property is looked at in the state that the one before it leaves, in which
the policy still has its name and its number. -/
theorem after_takeApart (hs : s.Separate) {of : String}
    (hof : of ∉ ["origin", "header", "defaults"]) {n : Nat}
    {p : LivePolicy} (hname : s.names.get? of = some (.object n))
    (hp : s.policyAt? n = some p) :
    s.after (takeApart of) = s.takenApart n p := by
  simp only [List.mem_cons, List.not_mem_nil, or_false, not_or] at hof
  obtain ⟨h₁, h₂, h₃⟩ := hof
  let s₁ := s.bind (some "origin") (.originOf n)
  let s₂ := (s₁.append [.policyMap (s.mapAt p.header)]).bind (some "header")
    (.object s.objects.length)
  let s₃ := s₂.bind (some "defaults") (.defaultsOf n)
  have hstep₁ : (s.step (.get (some "origin") of .origin)).1 = s₁ :=
    step_get_fst hname hp (some "origin") .origin
  have hname₁ : s₁.names.get? of = some (.object n) := by
    rw [get?_names_bind, if_neg h₁, hname]
  have hstep₂ : (s₁.step (.get (some "header") of .header)).1 = s₂ :=
    step_get_fst (s := s₁) hname₁ hp (some "header") .header
  have hp₂ : s₂.policyAt? n = some p := policyAt?_append hp _
  have hname₂ : s₂.names.get? of = some (.object n) := by
    rw [get?_names_bind, if_neg h₂]
    exact hname₁
  have hstep₃ : (s₂.step (.get (some "defaults") of .defaults)).1 = s₃ :=
    step_get_fst hname₂ hp₂ (some "defaults") .defaults
  have hname₃ : s₃.names.get? of = some (.object n) := by
    rw [get?_names_bind, if_neg h₃, hname₂]
  have hstep₄ :
      (s₃.step (.get (some "frame") of .frame)).1 = s.takenApart n p := by
    rw [step_get_fst hname₃ hp₂ (some "frame") .frame]
    obtain ⟨page, header, defaults, frame⟩ := p
    cases frame with
    | none =>
        simp [property, takenApart, copies, frameRef, bind, append, s₃, s₂, s₁]
    | some frame =>
        have hmap : s₃.mapAt frame.2 = s.mapAt frame.2 :=
          mapAt_append (s := s₁) (hs.owned frame.2
            ⟨n, _, hp, LivePolicy.mem_owned_of_frame rfl⟩).isMap _
        simpa [property, takenApart, copies, frameRef, bind, append, present,
          add, s₃, s₂, s₁] using hmap
  simp only [after, takeApart, List.foldl_cons, List.foldl_nil, hstep₁, hstep₂,
    hstep₃, hstep₄]

theorem resolve_takenApart {n : Nat} {p : LivePolicy}
    (hp : s.policyAt? n = some p) :
    let t := s.takenApart n p
    t.resolve (reference "origin") = .ok (.text p.page) ∧
      t.resolve (reference "header") = .ok (.object s.objects.length "") ∧
      t.resolve (reference "defaults") =
        .ok (.map (p.defaults.entries.map fun entry =>
          (.text entry.1, .text entry.2.text))) ∧
      t.resolve (reference "frame") = .ok (t.valueOf (s.frameRef p)) := by
  intro t
  have hp' : t.policyAt? n = some p := policyAt?_append hp _
  have hlookup {name : String} {ref : Ref}
      (href : t.names.get? name = some ref) :
      t.resolve (reference name) = .ok (t.valueOf ref) := by
    rw [resolve_reference, lookup_eq_ok_iff.mpr href]
    rfl
  have horigin : t.valueOf (.originOf n) = .text p.page := by
    rw [valueOf, originAt, hp']
    rfl
  have hdefaults : t.valueOf (.defaultsOf n) =
      .map (p.defaults.entries.map fun entry =>
        (.text entry.1, .text entry.2.text)) := by
    rw [valueOf, defaultsAt, hp']
    rfl
  have hheader : t.names.get? "header" = some (.object s.objects.length) := by
    simp [t, takenApart, get?_names_bind]
  refine ⟨horigin ▸ hlookup ?_, hlookup hheader, hdefaults ▸ hlookup ?_,
    hlookup ?_⟩
  · simp [t, takenApart, get?_names_bind]
  · simp [t, takenApart, get?_names_bind]
  · simp [t, takenApart, get?_names_bind]

theorem registry_takenApart (hs : s.Separate) {n : Nat} {p : LivePolicy}
    (hp : s.policyAt? n = some p) :
    (s.takenApart n p).registry s.objects.length =
      .policyMap { form := .normalized, grants := (s.snapshot p).header } := by
  have hheader : (s.takenApart n p).objects[s.objects.length]? =
      some (.policyMap (s.mapAt p.header)) :=
    append_getElem?_length_add (s := s) (s.copies p) 0
  have hmap := (hs.owned p.header ⟨n, p, hp, List.mem_cons_self⟩).mapAt_eq
  rw [registry, hheader]
  exact congrArg Instance.policyMap hmap

theorem givesOut_takenApart (hs : s.Separate) {n : Nat} {p : LivePolicy}
    (hp : s.policyAt? n = some p) :
    Arguments.GivesOut (s.takenApart n p).registry (s.snapshot p).frame
      ((s.takenApart n p).valueOf (s.frameRef p)) := by
  obtain ⟨page, header, defaults, frame⟩ := p
  cases frame with
  | none => rfl
  | some frame =>
      obtain ⟨origin, allow⟩ := frame
      let p : LivePolicy := ⟨page, header, defaults, some (origin, allow)⟩
      let t := s.takenApart n p
      have hframe : p.frame = some (origin, allow) := rfl
      have howned : allow ∈ p.owned := LivePolicy.mem_owned_of_frame hframe
      have hmap := (hs.owned allow ⟨n, p, hp, howned⟩).mapAt_eq
      have hcopy : t.objects[s.objects.length + 1]? =
          some (.policyMap (s.mapAt allow)) :=
        append_getElem?_length_add (s := s) (s.copies p) 1
      have hcontext : t.objects[s.objects.length + 2]? =
          some (.frameContext origin (s.objects.length + 1)) :=
        append_getElem?_length_add (s := s) (s.copies p) 2
      have hheld : t.mapAt (s.objects.length + 1) = s.mapAt allow := by
        rw [mapAt, hcopy]
      refine ⟨s.objects.length + 2, "", s.objects.length + 1, rfl, ?_, ?_⟩
      · rw [registry, hcontext]
        change Instance.frameContext origin (.shared _ (t.mapAt _)) = _
        rw [hheld, hmap]
      · rw [registry, hcopy]
        exact congrArg Instance.policyMap hmap

/-- A policy that is built from its own properties is the same again. -/
theorem step_putTogether (hs : s.Separate) {of : String} {p : Policy}
    (hp : s.Denotes of p)
    (hof : of ∉ ["origin", "header", "defaults"])
    (hpage : canonical? p.page = some p.page)
    (hframe : ∀ f, p.frame = some f →
      canonical? f.origin = some f.origin ∧
        PolicyMap.firstUnresolved? f.allow = none) (name : Option String) :
    ((s.after (takeApart of)).step (putTogether name)).2 = .ok (.policy p) := by
  obtain ⟨n, live, hname, hlive, rfl⟩ := hp
  obtain ⟨horigin, hheader, hdefaults, hgiven⟩ := resolve_takenApart hlive
  have hbuilt := Arguments.policy_of_givesOut hpage hframe
    (registry_takenApart hs hlive) (givesOut_takenApart hs hlive) ""
  rw [defaultValues_snapshot] at hbuilt
  rw [after_takeApart hs hof hname hlive, step_snd]
  simp only [putTogether, perform, horigin, hheader, hdefaults, hgiven]
  exact ((s.takenApart n live).build_map_snd name _ _ _ _).trans
    (congrArg (Except.map Shown.policy) hbuilt)

/-- A chain of frames ends in the policy that is built from the arguments of
the first policy and the last frame.  A frame whose URL has no origin is
refused, which changes nothing.  The properties of a policy make the same
policy again. -/
theorem inherit_replaces {known : Registry}
    {page' header' defaults' frame' : Value} {p : Policy}
    (hbuilt : Arguments.policy known page' header' defaults' frame' = .ok p)
    (hpage : canonical? p.page = some p.page)
    {frames : List (FrameInfo PolicyMap)}
    (hframes : ∀ info ∈ frames, info.IsUsable) :
    (∀ last' last, Arguments.frame known last' = .ok (some last) →
      (last.mapAllow Held.content).IsUsable →
        ∃ q, p.inheritAll (frames ++ [last.mapAllow Held.content]) = .ok q ∧
          Arguments.policy known page' header' defaults' last' = .ok q) ∧
      (∃ q, p.inheritAll frames = .ok q ∧
        ∀ info fault, canonicalize info.origin = .error fault →
          q.inherit info = .error (.frameUrl { url := info.origin, fault }) ∧
          ∀ (s : State) (name : Option String) (of : String) (frame : Value),
            s.Reachable → s.Denotes of q → s.Describes frame info →
            s.step (.inherit name of frame) =
              (s, .error (InvalidUrl.failure { url := info.origin, fault }))) ∧
      ((∀ f, p.frame = some f → canonical? f.origin = some f.origin) →
        ∀ (s : State) (name : Option String) (of : String),
          s.Reachable → s.Denotes of p →
          of ∉ ["origin", "header", "defaults"] →
          ((s.after (takeApart of)).step (putTogether name)).2 =
            .ok (.policy p)) := by
  obtain ⟨source, values, info?, hheader, hdefaults, -, hbuild⟩ :=
    Arguments.exists_build_of_policy hbuilt
  have hofPage := Policy.ofPage_of_build hbuild
  obtain ⟨frame, hchain⟩ := Policy.exists_inheritAll hpage hframes
  let q : Policy := { p with frame }
  have hinherit (info : FrameInfo PolicyMap) :
      q.inherit info = p.withFrame info :=
    Policy.inherit_eq_withFrame (p := q) hpage info
  refine ⟨?_, ⟨q, hchain, ?_⟩, ?_⟩
  · intro last' last hlast husable
    obtain ⟨f, hframe⟩ :=
      Policy.exists_withFrame (ne_keyword_of_canonical? hpage) husable
    refine ⟨{ p with frame := some f }, ?_, ?_⟩
    · rw [Policy.inheritAll_append, hchain]
      exact Policy.inheritAll_cons_eq_ok_iff.mpr
        ⟨_, (hinherit _).trans hframe, rfl⟩
    · rw [Arguments.policy_eq_build hheader hdefaults hlast, mapError_eq_ok_iff,
        Policy.build, hofPage]
      exact hframe
  · intro info fault hfault
    have hrefused : q.inherit info =
        .error (.frameUrl { url := info.origin, fault }) := by
      rw [hinherit, Policy.withFrame, Policy.readFrame_of_canonicalize hfault]
      rfl
    refine ⟨hrefused, ?_⟩
    intro s name of frame hs hof hinfo
    have hstep := step_inherit_snd hs.separate hof hinfo name
    rw [hrefused] at hstep
    exact step_eq_of_snd_eq_error hstep
  · intro hframe s name of hs hp hof
    refine step_putTogether hs.separate hp hof hpage ?_ name
    intro f hf
    obtain ⟨info, -, hread⟩ := Policy.exists_readFrame_of_build hbuild hf
    exact ⟨hframe f hf, Policy.firstUnresolved?_of_readFrame hread⟩

/-- The page with the camera is built in a session. -/
def cameraSteps : List Step :=
  [.policy (some "page") (.text "https://a.example/start")
    (.text "camera=(\"https://b.example\")") .null .null]

/-- Behind two frames, the frame of a call gets what it gets in the page
itself, and a frame without a scheme is refused.  The page is built again from
its properties. -/
theorem cameraFrames_replaced :
    (∃ q r, Policy.cameraPage.inheritAll
        (Policy.cameraFrames ++
          [{ origin := "https://b.example", allow := .text "camera" }]) = .ok q ∧
      Arguments.policy Registry.none (.text "https://a.example/start")
        (.text "camera=(\"https://b.example\")") .null
        (.map [(.text "origin", .text "https://b.example"),
          (.text "allow", .text "camera")]) = .ok q ∧
      Policy.cameraPage.inheritAll Policy.cameraFrames = .ok r ∧
      r.inherit { origin := "b.example", allow := .text "" } =
        .error (.frameUrl { url := "b.example", fault := .noScheme })) ∧
      (((empty.after cameraSteps).after (takeApart "page")).step
          (putTogether none)).2 = .ok (.policy Policy.cameraPage) := by
  obtain ⟨hlast, ⟨r, hr, hrefused⟩, hagain⟩ :=
    inherit_replaces Policy.policy_cameraPage Policy.canonical?_cameraPage
      Policy.isUsable_cameraFrames
  obtain ⟨q, hq, hdirect⟩ := hlast
    (.map [(.text "origin", .text "https://b.example"),
      (.text "allow", .text "camera")])
    { origin := "https://b.example", allow := .text "camera" } rfl
    (by decide)
  have hscheme := hrefused { origin := "b.example", allow := .text "" } .noScheme
    (by decide)
  have hsnapshot : ((empty.after cameraSteps).policyAt? 1).map
      (empty.after cameraSteps).snapshot = some Policy.cameraPage := by
    decide +kernel
  obtain ⟨live, hlive, hpage⟩ := Option.map_eq_some_iff.mp hsnapshot
  have hnamed : (empty.after cameraSteps).Denotes "page" Policy.cameraPage :=
    ⟨1, live, by decide +kernel, hlive, hpage⟩
  refine ⟨⟨q, r, hq, hdirect, hr, hscheme.1⟩, ?_⟩
  exact hagain nofun (empty.after cameraSteps) none "page"
    ⟨cameraSteps, by decide, rfl⟩ hnamed (by decide)

/-- A map of normalized form that a frame shares, and into which a keyword is
written afterwards. -/
def overwritten : List Step :=
  [.make (some "map") (.policyMap .normalized) (.map []),
    .make (some "inner") .frameInfo (.map
      [(.text "origin", .text "https://b.example"),
        (.text "allow", reference "map")]),
    .set "map" "camera" (.map [(.text "kind", .text "origins"),
      (.text "origins", .list [.text "'self'"])]),
    .policy (some "page") (.text "https://a.example") (.text "") .null .null]

/-- The origin of the frame is accepted, but the frame cannot inherit. -/
theorem inherit_overwritten :
    ∃ (s : State) (p : Policy) (info : FrameInfo PolicyMap),
      s.Reachable ∧ s.Denotes "page" p ∧ canonical? p.page = some p.page ∧
        s.Describes (reference "inner") info ∧ canonical? info.origin ≠ none ∧
        s.step (.inherit none "page" (reference "inner")) =
          (s, .error (.shape "FrameContext"
            [{ path := [.name "allow"]
               flaw := .unresolvedKeyword "camera" }])) := by
  refine ⟨empty.after overwritten, _, _, ⟨overwritten, by decide, rfl⟩,
    ⟨3, _, rfl, rfl, rfl⟩, ?_, ⟨_, _, rfl, rfl, rfl⟩, ?_, rfl⟩
  · decide
  · decide

end State

end Session

end FeatureGrant
