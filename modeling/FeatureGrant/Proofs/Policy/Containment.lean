import FeatureGrant.Proofs.Policy.Ruling

/-!
# Containment of frames

A frame of another origin than its page gets nothing that its allow attribute
does not mention, but for what a default of `'src'` leaves to the frame itself.
An origin other than the frame's own is allowed only where the allow attribute
lists both.
-/

namespace FeatureGrant

/-! ## One frame and one origin -/

theorem Frame.allows_none_iff {frame : Frame} {page checked : String} :
    frame.allows page none checked = true ↔
      frame.origin = page ∧ checked = frame.origin := by
  rw [allows, Bool.and_eq_true, beq_iff_eq, beq_iff_eq]

/-- Another origin is allowed only along with the frame. -/
theorem Frame.exists_members_of_allows {frame : Frame}
    {page checked : String} {a? : Option Allowlist}
    (hallows : frame.allows page a? checked = true)
    (hother : checked ≠ frame.origin) :
    ∃ members, a? = some (.origins members) ∧ checked ∈ members ∧
      frame.origin ∈ members := by
  cases a? with
  | none => exact absurd (allows_none_iff.mp hallows).2 hother
  | some a =>
      cases a with
      | wildcard => exact absurd (beq_iff_eq.mp hallows) hother
      | deny => exact nomatch hallows
      | origins members =>
          rw [allows, Bool.and_eq_true, decide_eq_true_iff,
            decide_eq_true_iff] at hallows
          exact ⟨members, rfl, hallows⟩

namespace Policy

variable {p : Policy} {frame : Frame} {feature : String}

theorem fromFrame_of_frame (hframe : p.frame = some frame) (feature : String) :
    p.fromFrame feature = frame.allow.get? feature := by
  rw [fromFrame, hframe, Option.bind_some]

/-- Of the defaults only `'src'` allows something in a frame of another
origin: the frame itself. -/
theorem defaultVerdict_iff_of_ne (hframe : p.frame = some frame)
    (hcross : frame.origin ≠ p.page) {d : Default} {checked : String} :
    (p.defaultVerdict d checked).1 = true ↔
      d = .src ∧ checked = frame.origin := by
  unfold defaultVerdict
  rw [hframe]
  cases d with
  | none => simp
  | wildcard => simp [hcross]
  | src =>
      by_cases horigin : checked = frame.origin
      · simp [horigin]
      · simp [horigin, Ne.symm horigin]
  | self => simp [hcross]

/-- A feature that the allow attribute does not mention is closed to a frame of
another origin, unless a default of `'src'` opens it to the frame itself. -/
theorem rule_allowed_iff_of_ne (hframe : p.frame = some frame)
    (hcross : frame.origin ≠ p.page) (hnot : frame.allow.get? feature = none)
    {checked : String} :
    (p.rule feature checked).allowed = true ↔
      p.header.get? feature = none ∧ p.defaultOf feature = .src ∧
        checked = frame.origin := by
  have hattribute : p.fromFrame feature = none := by
    rw [fromFrame_of_frame hframe, hnot]
  by_cases hheader : p.header.get? feature = none
  · have hmentions := not_mentions_iff.mpr ⟨hheader, hattribute⟩
    rw [rule_allowed_of_not_mentions hmentions,
      defaultVerdict_iff_of_ne hframe hcross]
    exact (and_iff_right hheader).symm
  · have hmentions : p.Mentions feature := Or.inl hheader
    rw [rule_allowed_of_mentions hmentions, hattribute, hframe,
      Option.all_some, Bool.and_eq_true, Frame.allows_none_iff]
    constructor
    · rintro ⟨-, hsame, -⟩
      exact absurd hsame hcross
    · rintro ⟨hnone, -⟩
      exact absurd hnone hheader

/-- Where a feature is mentioned, an origin other than the frame's is allowed
only if the allow attribute lists the two. -/
theorem exists_members_of_rule_allowed (hframe : p.frame = some frame)
    (hmentions : p.Mentions feature) {checked : String}
    (hallowed : (p.rule feature checked).allowed = true)
    (hother : checked ≠ frame.origin) :
    ∃ members, frame.allow.get? feature = some (.origins members) ∧
      checked ∈ members ∧ frame.origin ∈ members := by
  rw [rule_allowed_of_mentions hmentions, Bool.and_eq_true, hframe,
    Option.all_some, fromFrame_of_frame hframe] at hallowed
  exact Frame.exists_members_of_allows hallowed.2 hother

/-- Frames contain what they are given. -/
theorem frame_contains (hframe : p.frame = some frame) (feature : String)
    (origin : Value) :
    (frame.origin ≠ p.page → frame.allow.get? feature = none →
      (p.allows feature origin = true ↔
        p.header.get? feature = none ∧ p.defaultOf feature = .src ∧
          p.checked? origin = some frame.origin)) ∧
    (frame.allow.get? feature ≠ none ∨ p.header.get? feature ≠ none →
      ∀ checked, p.checked? origin = some checked →
        p.allows feature origin = true → checked ≠ frame.origin →
          ∃ members, frame.allow.get? feature = some (.origins members) ∧
            checked ∈ members ∧ frame.origin ∈ members) := by
  constructor
  · intro hcross hnot
    simp only [allows_eq_true_iff, rule_allowed_iff_of_ne hframe hcross hnot]
    constructor
    · rintro ⟨checked, hchecked, hheader, hdefault, rfl⟩
      exact ⟨hheader, hdefault, hchecked⟩
    · rintro ⟨hheader, hdefault, hchecked⟩
      exact ⟨frame.origin, hchecked, hheader, hdefault, rfl⟩
  · intro hmentioned checked hchecked hallows hother
    rw [← fromFrame_of_frame hframe, or_comm] at hmentioned
    rw [allows_eq_of_checked?_eq_some hchecked] at hallows
    exact exists_members_of_rule_allowed hframe hmentioned hallows hother

/-- A frame that may share the microphone with another origin. -/
def microphoneFrame : Frame where
  origin := "https://b.example"
  allow := .ofList [("microphone",
    .origins (.ofList ["https://b.example", "https://c.example"]))]

/-- A page that leaves the camera to the frame in it. -/
def microphonePage : Policy where
  page := "https://a.example"
  header := ∅
  defaults := .ofList [("camera", .src)]
  frame := some microphoneFrame

/-- The camera is left to the frame itself, and the microphone to an origin
that is listed together with the frame. -/
theorem microphonePage_contains :
    microphonePage.allows "camera" (.text "") = true ∧
      ∃ members,
        microphoneFrame.allow.get? "microphone" = some (.origins members) ∧
          "https://c.example" ∈ members ∧
          microphoneFrame.origin ∈ members := by
  have hframe : microphonePage.frame = some microphoneFrame := rfl
  constructor
  · apply ((frame_contains hframe "camera" (.text "")).1 (by decide)
      (by decide)).mpr
    decide
  · exact (frame_contains hframe "microphone" (.text "https://c.example")).2
      (Or.inl (by decide)) "https://c.example" (by decide)
      (by decide) (by decide)

end Policy

end FeatureGrant
