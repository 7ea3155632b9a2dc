import FeatureGrant.Proofs.AllowAttribute
import FeatureGrant.Proofs.Policy.Construction
import FeatureGrant.Proofs.Policy.Ruling

/-!
# What opens a feature to a frame

An allow attribute opens a feature to the frame itself only where a target of
its last directive on the feature says so: a wildcard, `'src'`, `'self'` in a
frame of the page's own origin, or a URL of the frame's origin.

The rule needs one usable target.  Unusable targets are dropped before it is
seen whether a directive has any, so a directive of unusable targets alone is
read like one without targets, which stands for the frame.
-/

namespace FeatureGrant

namespace AllowAttribute

/-- A target that opens a feature to the frame. -/
def Opens (page frame target : String) : Prop :=
  target = "*" ∨ target = Keyword.src.text ∨
    (target = Keyword.self.text ∧ page = frame) ∨
    canonical? target = some frame

/-- A target that has a meaning: a wildcard, a keyword or the URL of an
origin. -/
def IsUsable (target : String) : Prop :=
  target = "*" ∨ target = Keyword.none.text ∨ target? target ≠ none

instance (target : String) : Decidable (IsUsable target) :=
  inferInstanceAs (Decidable (_ ∨ _ ∨ _))

instance (page frame target : String) : Decidable (Opens page frame target) :=
  inferInstanceAs (Decidable (_ ∨ _ ∨ _ ∧ _ ∨ _))

theorem opens_of_targetOrigin? {page frame target : String}
    (htarget : Request.targetOrigin? page frame target = some frame) :
    Opens page frame target := by
  unfold Request.targetOrigin? at htarget
  split at htarget
  next hself => exact Or.inr (Or.inr (Or.inl ⟨hself, Option.some.inj htarget⟩))
  next =>
    split at htarget
    next hsrc => exact Or.inr (Or.inl hsrc)
    next => exact Or.inr (Or.inr (Or.inr htarget))

/-- Where a target is usable, the targets allow the frame to itself only if one
of them opens the feature. -/
theorem exists_opens_of_targetsAllow {page frame : String}
    {targets : List String} (husable : ∃ target ∈ targets, IsUsable target)
    (hallow : Request.targetsAllow page frame frame (some targets) = true) :
    ∃ target ∈ targets, Opens page frame target := by
  unfold Request.targetsAllow at hallow
  dsimp only at hallow
  split at hallow
  next hstar => exact ⟨"*", hstar, Or.inl rfl⟩
  next hstar =>
    split at hallow
    next => exact nomatch hallow
    next hnone =>
      rw [Bool.and_self, decide_eq_true_iff] at hallow
      have hnamed : ∃ target ∈ targets,
          Request.targetOrigin? page frame target = some frame := by
        unfold Request.namedOrigins at hallow
        split at hallow
        next hnil =>
          obtain ⟨target, hmem, rfl | rfl | htarget⟩ := husable
          · exact absurd hmem hstar
          · exact absurd hmem hnone
          · have horigin := List.filterMap_eq_nil_iff.mp hnil target hmem
            rw [targetOrigin?_eq, Option.map_eq_none_iff] at horigin
            exact absurd horigin htarget
        next => exact List.mem_filterMap.mp hallow
      obtain ⟨target, hmem, htarget⟩ := hnamed
      exact ⟨target, hmem, opens_of_targetOrigin? htarget⟩

/-- A directive of unusable targets has the allowlist of one without
targets. -/
theorem allowlist_of_not_isUsable {targets : List String}
    (hunusable : ∀ target ∈ targets, ¬ IsUsable target) :
    allowlist targets = allowlist [] := by
  have hstar : "*" ∉ targets := fun h => hunusable _ h (Or.inl rfl)
  have hnone : Keyword.none.text ∉ targets :=
    fun h => hunusable _ h (Or.inr (Or.inl rfl))
  have hnil : targets.filterMap target? = [] := by
    rw [List.filterMap_eq_nil_iff]
    intro target hmem
    apply Decidable.byContradiction
    intro htarget
    exact hunusable target hmem (Or.inr (Or.inr htarget))
  rw [allowlist, if_neg hstar, if_neg hnone, hnil]
  rfl

end AllowAttribute

namespace Policy

open AllowAttribute

/-- What an attribute that is given as text allows the frame itself is what the
targets of the last directive allow. -/
theorem targetsAllow_of_rule_allowed {p : Policy} {frame : Frame}
    {info : FrameInfo PolicyMap} {value feature : String}
    {targets : List String} (hallow : info.allow = .text value)
    (hpage : p.page ≠ Keyword.src.text)
    (hread : readFrame p.page info = .ok frame) (hframe : p.frame = some frame)
    (htargets : (Request.directives value).reverse.lookup feature = some targets)
    {checked : String} (hallowed : (p.rule feature checked).allowed = true) :
    Request.targetsAllow p.page frame.origin checked (some targets) = true := by
  obtain ⟨horigin, hgrants⟩ := readFrame_eq_ok hread
  have hfrom : p.fromFrame feature =
      some ((allowlist targets).resolve p.page (some frame.origin)) := by
    rw [fromFrame, hframe, Option.bind_some, hgrants, hallow]
    change (Grants.resolve _ _ (read value)).get? feature = _
    rw [Grants.get?_resolve, get?_read, htargets]
    rfl
  rw [rule_allowed_of_mentions (mentions_of_attribute hfrom),
    Bool.and_eq_true, hframe, Option.all_some, hfrom, allows_resolve_allowlist hpage
      (ne_empty_of_canonical? horigin)] at hallowed
  exact hallowed.2

/-- A frame whose attribute has a usable target for a feature gets the feature
only if one of the targets opens it. -/
theorem exists_opens_of_allows {known : Registry}
    {page' header' defaults' frame' : Value} {info : FrameInfo Held}
    {value : String} {p : Policy}
    (hinfo : Arguments.frame known frame' = .ok (some info))
    (hallow : info.allow = .text value)
    (hbuilt : Arguments.policy known page' header' defaults' frame' = .ok p)
    {feature : String} {targets : List String}
    (htargets : (Request.directives value).reverse.lookup feature = some targets)
    (husable : ∃ target ∈ targets, IsUsable target) :
    ∃ page frame, originOf page' = .ok page ∧
      canonical? info.origin = some frame ∧
      ∀ origin, p.checked? origin = some frame →
        p.allows feature origin = true →
          ∃ target ∈ targets, Opens page frame target := by
  obtain ⟨source, values, info?, -, -, hinfo', hp⟩ :=
    Arguments.exists_build_of_policy hbuilt
  obtain rfl : some info = info? := Except.ok.inj (hinfo.symm.trans hinfo')
  obtain ⟨hpage, -, -, frame, hread, hframe⟩ := build_some_eq_ok hp
  have hkeyword : p.page ≠ Keyword.src.text := by
    cases page' with
    | text url => exact ne_keyword_of_canonical? (originOf_text_eq_ok_iff.mp hpage) .src
    | _ => exact nomatch hpage
  refine ⟨p.page, frame.origin, hpage, (readFrame_eq_ok hread).1, ?_⟩
  intro origin hchecked hallows
  rw [allows_eq_of_checked?_eq_some hchecked] at hallows
  have hsource : (info.mapAllow Held.content).allow = .text value := by
    rw [FrameInfo.mapAllow, hallow, Source.mapValue]
  exact exists_opens_of_targetsAllow husable
    (targetsAllow_of_rule_allowed hsource hkeyword hread hframe htargets hallows)

/-- A frame that names its own origin, beside a target without a meaning. -/
def cameraRequest : Request where
  url := "https://a.example"
  header := "camera=*"
  defaults := ∅
  frameUrl := "https://b.example/call"
  allow := "camera 'none'; camera anyone https://b.example:443"

/-- The camera is open to the frame because of one of its two targets. -/
theorem cameraRequest_opens :
    ∃ target ∈ ["anyone", "https://b.example:443"],
      Opens "https://a.example" "https://b.example" target := by
  have hbuilt : (cameraRequest.policy .none).toOption.map (fun p =>
      (p.checked? (.text ""), p.allows "camera" (.text ""))) =
        some (some "https://b.example", true) := by
    decide +kernel
  obtain ⟨p, hp, hanswers⟩ := Option.map_eq_some_iff.mp hbuilt
  obtain ⟨hchecked, hallows⟩ := Prod.mk.inj hanswers
  have htargets : (Request.directives cameraRequest.allow).reverse.lookup "camera" =
      some ["anyone", "https://b.example:443"] := by
    decide
  obtain ⟨page, frame, hpage, hframe, hopens⟩ :=
    exists_opens_of_allows rfl rfl (toOption_eq_some_iff.mp hp) htargets
      (by decide)
  have hurl : originOf (.text "https://a.example") =
      .ok "https://a.example" := by
    rw [originOf_text_eq_ok_iff]
    decide
  have hframeUrl : canonical? "https://b.example/call" =
      some "https://b.example" := by
    decide
  obtain rfl := Except.ok.inj (hurl.symm.trans hpage)
  obtain rfl := Option.some.inj (hframeUrl.symm.trans hframe)
  exact hopens (.text "") hchecked hallows

/-- A frame the only target of which has no meaning. -/
def anyoneRequest : Request where
  url := "https://a.example"
  header := ""
  defaults := ∅
  frameUrl := "https://b.example"
  allow := "camera anyone"

/-- The frame gets the camera although no target opens it. -/
theorem anyoneRequest_allows :
    anyoneRequest.targets? "camera" = some ["anyone"] ∧
      (∃ p, anyoneRequest.policy .none = .ok p ∧ p.page = "https://a.example" ∧
        p.checked? (.text "") = some "https://b.example" ∧
        p.allows "camera" (.text "") = true) ∧
      ¬ ∃ target ∈ ["anyone"],
        Opens "https://a.example" "https://b.example" target := by
  refine ⟨by decide, ?_, by decide⟩
  have hbuilt : (anyoneRequest.policy .none).toOption.map (fun p =>
      (p.page, p.checked? (.text ""), p.allows "camera" (.text ""))) =
        some ("https://a.example", some "https://b.example", true) := by
    decide
  obtain ⟨p, hp, hanswers⟩ := Option.map_eq_some_iff.mp hbuilt
  simp only [Prod.mk.injEq] at hanswers
  exact ⟨p, toOption_eq_some_iff.mp hp, hanswers⟩

end Policy

end FeatureGrant
