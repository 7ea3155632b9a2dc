import FeatureGrant.Proofs.Policy.Ruling
import Mathlib.Data.Fintype.EquivFin
import Mathlib.Data.Finset.Insert

/-!
# Growing allowlists

An allowlist that grows revokes nothing: if the header of a policy grants more
for a feature than before, then what was allowed stays allowed.  The same holds
of the allow attribute of a frame, with one exception.  The wildcard of an
attribute is meant for the frame alone, so that an origin which was listed
beside the frame loses the feature if the list gives way to the wildcard.
-/

namespace FeatureGrant

namespace Allowlist

/-- The order of allowlists: those that list nothing are below every other one,
sets of origins are ordered by inclusion, and the wildcard is above all. -/
inductive Below : Allowlist → Allowlist → Prop
  | deny (b : Allowlist) : Below deny b
  | empty (b : Allowlist) : Below (origins ∅) b
  | subset {s t : SortedSet} (hsubset : ∀ x : String, x ∈ s → x ∈ t) :
      Below (origins s) (origins t)
  | wildcard (a : Allowlist) : Below a wildcard

theorem allows_origins_iff {s : SortedSet} {x : String} :
    (origins s).allows x = true ↔ x ∈ s :=
  decide_eq_true_iff

theorem exists_not_mem (s : SortedSet) : ∃ x : String, ¬ x ∈ s := by
  obtain ⟨x, hx⟩ := Infinite.exists_notMem_finset s.toList.toFinset
  exact ⟨x, fun h => hx (List.mem_toFinset.mpr h)⟩

/-- An allowlist is below another one if that allows whatever it allows. -/
theorem below_iff {a b : Allowlist} :
    a.Below b ↔ ∀ x, a.allows x = true → b.allows x = true := by
  constructor
  · intro hbelow x hx
    cases hbelow with
    | deny => exact nomatch hx
    | empty => exact absurd (allows_origins_iff.mp hx) (SortedSet.not_mem_empty x)
    | subset hsubset =>
        exact allows_origins_iff.mpr (hsubset x (allows_origins_iff.mp hx))
    | wildcard => rfl
  · intro h
    cases a with
    | deny => exact .deny b
    | wildcard =>
        cases b with
        | wildcard => exact .wildcard _
        | deny => exact nomatch h "" rfl
        | origins t =>
            obtain ⟨x, hx⟩ := exists_not_mem t
            exact absurd (allows_origins_iff.mp (h x rfl)) hx
    | origins s =>
        cases b with
        | wildcard => exact .wildcard _
        | deny =>
            have hempty : s = ∅ := by
              apply SortedSet.ext
              apply List.eq_nil_iff_forall_not_mem.mpr
              intro x hx
              exact nomatch h x (allows_origins_iff.mpr hx)
            rw [hempty]
            exact .empty _
        | origins t =>
            apply Below.subset
            intro x hx
            exact allows_origins_iff.mp (h x (allows_origins_iff.mpr hx))

end Allowlist

/-- The allow attribute lets an origin use a feature if its allowlist allows the
origin and the frame; a wildcard is for the frame alone. -/
theorem Frame.allows_some_iff {frame : Frame} {page checked : String}
    {a : Allowlist} :
    frame.allows page (some a) checked = true ↔
      a.allows checked = true ∧ a.allows frame.origin = true ∧
        (a = .wildcard → checked = frame.origin) := by
  cases a with
  | wildcard => simp [allows, Allowlist.allows]
  | deny => simp [allows, Allowlist.allows]
  | origins members => simp [allows, Allowlist.allows]

/-- An attribute that grows goes on to allow what it allowed, unless it is now a
wildcard and the origin is not that of the frame. -/
theorem Frame.allows_of_below {frame : Frame} {page checked : String}
    {a b : Allowlist} (hbelow : a.Below b)
    (hscope : b = .wildcard → checked = frame.origin)
    (hallows : frame.allows page (some a) checked = true) :
    frame.allows page (some b) checked = true := by
  obtain ⟨hchecked, hframe, -⟩ := allows_some_iff.mp hallows
  have hgrow := Allowlist.below_iff.mp hbelow
  exact allows_some_iff.mpr
    ⟨hgrow checked hchecked, hgrow frame.origin hframe, hscope⟩

namespace Policy

/-- The same policy with another header. -/
def withHeader (p : Policy) (header : Grants) : Policy := { p with header }

/-- The same policy for a frame of some origin and with some allow attribute. -/
def inFrame (p : Policy) (origin : String) (allow : Grants) : Policy :=
  { p with frame := some { origin, allow } }

variable {p : Policy} {feature checked : String} {a b : Allowlist}

/-! ## The ruling on one origin -/

theorem rule_allowed_of_header_below {header grown : Grants}
    (ha : header.get? feature = some a) (hb : grown.get? feature = some b)
    (hbelow : a.Below b)
    (hallowed : ((p.withHeader header).rule feature checked).allowed = true) :
    ((p.withHeader grown).rule feature checked).allowed = true := by
  have hmentions : (p.withHeader header).Mentions feature := mentions_of_header ha
  have hmentions' : (p.withHeader grown).Mentions feature := mentions_of_header hb
  rw [rule_allowed_of_mentions hmentions, Bool.and_eq_true] at hallowed
  obtain ⟨hheader, hattribute⟩ := hallowed
  rw [rule_allowed_of_mentions hmentions', Bool.and_eq_true]
  refine ⟨?_, hattribute⟩
  rw [withHeader, ha, Option.all_some] at hheader
  rw [withHeader, hb, Option.all_some]
  exact Allowlist.below_iff.mp hbelow checked hheader

theorem rule_allowed_of_attribute_below {origin : String} {allow grown : Grants}
    (ha : allow.get? feature = some a) (hb : grown.get? feature = some b)
    (hbelow : a.Below b) (hscope : b = .wildcard → checked = origin)
    (hallowed : ((p.inFrame origin allow).rule feature checked).allowed = true) :
    ((p.inFrame origin grown).rule feature checked).allowed = true := by
  have hattribute : (p.inFrame origin allow).fromFrame feature = some a := ha
  have hattribute' : (p.inFrame origin grown).fromFrame feature = some b := hb
  rw [rule_allowed_of_mentions (mentions_of_attribute hattribute),
    Bool.and_eq_true, hattribute] at hallowed
  obtain ⟨hheader, hframe⟩ := hallowed
  rw [rule_allowed_of_mentions (mentions_of_attribute hattribute'),
    Bool.and_eq_true, hattribute']
  exact ⟨hheader, Frame.allows_of_below hbelow hscope hframe⟩

/-- Where the attribute mentions a feature, a header that does not mention it
denies nothing. -/
theorem rule_allowed_of_header_removed {header removed : Grants}
    (hnone : removed.get? feature = none)
    (hattribute : p.fromFrame feature ≠ none)
    (hallowed : ((p.withHeader header).rule feature checked).allowed = true) :
    ((p.withHeader removed).rule feature checked).allowed = true := by
  have hmentions (h : Grants) : (p.withHeader h).Mentions feature :=
    Or.inr hattribute
  rw [rule_allowed_of_mentions (hmentions header), Bool.and_eq_true] at hallowed
  rw [rule_allowed_of_mentions (hmentions removed), Bool.and_eq_true]
  refine ⟨?_, hallowed.2⟩
  rw [withHeader, hnone, Option.all_none]

/-! ## Policies that grow -/

theorem checked?_withHeader (p : Policy) (header grown : Grants) (asked : Value) :
    (p.withHeader grown).checked? asked = (p.withHeader header).checked? asked :=
  rfl

theorem checked?_inFrame (p : Policy) (origin : String) (allow grown : Grants)
    (asked : Value) :
    (p.inFrame origin grown).checked? asked =
      (p.inFrame origin allow).checked? asked :=
  rfl

/-- A policy that checks the same origins as another one, and that allows what
the other allows of them, allows the values that the other allows. -/
theorem allows_of_rule_allowed {p q : Policy} {asked : Value}
    (hchecked : q.checked? asked = p.checked? asked)
    (hrule : ∀ checked, p.checked? asked = some checked →
      (p.rule feature checked).allowed = true →
        (q.rule feature checked).allowed = true)
    (hallows : p.allows feature asked = true) :
    q.allows feature asked = true := by
  obtain ⟨checked, hsome, hallowed⟩ := allows_eq_true_iff.mp hallows
  exact allows_eq_true_iff.mpr
    ⟨checked, hchecked.trans hsome, hrule checked hsome hallowed⟩

/-- Whether whatever one policy allows of a feature another policy allows as
well. -/
def KeepsGrants (p q : Policy) (feature : String) : Prop :=
  ∀ asked : Value, p.allows feature asked = true → q.allows feature asked = true

/-- Growing allowlists revoke nothing: in the header of a policy, and in the
allow attribute of a frame, there for all origins if neither allowlist is the
wildcard, and for the frame itself in any case.  Nor is anything revoked if the
header no longer mentions a feature that the attribute mentions. -/
theorem keepsGrants_of_below (p : Policy) (feature : String) :
    (∀ (header grown : Grants) (a b : Allowlist), a.Below b →
      header.get? feature = some a → grown.get? feature = some b →
        (p.withHeader header).KeepsGrants (p.withHeader grown) feature) ∧
    (∀ (origin : String) (allow grown : Grants) (a b : Allowlist), a.Below b →
      allow.get? feature = some a → grown.get? feature = some b →
        (a ≠ .wildcard → b ≠ .wildcard →
          (p.inFrame origin allow).KeepsGrants (p.inFrame origin grown)
            feature) ∧
        ∀ asked : Value, (p.inFrame origin allow).checked? asked = some origin →
          (p.inFrame origin allow).allows feature asked = true →
            (p.inFrame origin grown).allows feature asked = true) ∧
    (p.fromFrame feature ≠ none →
      ∀ header removed : Grants, removed.get? feature = none →
        (p.withHeader header).KeepsGrants (p.withHeader removed) feature) := by
  refine ⟨?_, ?_, ?_⟩
  · intro header grown a b hbelow ha hb asked
    apply allows_of_rule_allowed (p.checked?_withHeader header grown asked)
    intro checked _
    exact rule_allowed_of_header_below ha hb hbelow
  · intro origin allow grown a b hbelow ha hb
    constructor
    · intro _ hwildcard asked
      apply allows_of_rule_allowed (p.checked?_inFrame origin allow grown asked)
      intro checked _
      apply rule_allowed_of_attribute_below ha hb hbelow
      intro hb'
      exact absurd hb' hwildcard
    · intro asked hasked
      apply allows_of_rule_allowed (p.checked?_inFrame origin allow grown asked)
      intro checked hchecked
      apply rule_allowed_of_attribute_below ha hb hbelow
      intro _
      exact Option.some.inj (hchecked.symm.trans hasked)
  · intro hattribute header removed hnone asked
    apply allows_of_rule_allowed (p.checked?_withHeader header removed asked)
    intro checked _
    exact rule_allowed_of_header_removed hnone hattribute

/-- A page that shares its camera with the frame in it and another origin. -/
def sharedPage : Policy where
  page := "https://a.example"
  header := .ofList
    [("camera", .ofList ["https://b.example", "https://c.example"])]
  defaults := ∅
  frame := some {
    origin := "https://b.example"
    allow := .ofList [("camera", .ofList ["https://b.example"])] }

/-- The frame keeps the camera if the header gives it to everyone or no longer
mentions it, and if the attribute lists another origin or is a wildcard. -/
theorem sharedPage_keepsGrants :
    (sharedPage.withHeader (.ofList [("camera", .wildcard)])).allows "camera"
        (.text "https://b.example") = true ∧
      (sharedPage.inFrame "https://b.example" (.ofList [("camera",
        .ofList ["https://b.example", "https://c.example"])])).allows "camera"
        (.text "https://b.example") = true ∧
      (sharedPage.inFrame "https://b.example"
        (.ofList [("camera", .wildcard)])).allows "camera" (.text "") = true ∧
      (sharedPage.withHeader ∅).allows "camera" (.text "") = true := by
  obtain ⟨hheader, hattribute, hremoved⟩ :=
    keepsGrants_of_below sharedPage "camera"
  let listed : Allowlist := .ofList ["https://b.example"]
  let shared : Allowlist := .ofList ["https://b.example", "https://c.example"]
  have hshared : listed.Below shared := by
    apply Allowlist.Below.subset
    intro x hx
    rw [SortedSet.mem_ofList] at hx ⊢
    exact List.mem_append_left ["https://c.example"] hx
  have hattributeOf := hattribute "https://b.example"
    (.ofList [("camera", listed)])
  refine ⟨?_, ?_, ?_, ?_⟩
  · exact hheader sharedPage.header _ _ .wildcard (.wildcard _) rfl rfl _
      (by decide)
  · exact (hattributeOf _ listed shared hshared rfl rfl).1 nofun nofun _
      (by decide)
  · exact (hattributeOf _ listed .wildcard (.wildcard _) rfl rfl).2 (.text "")
      rfl (by decide)
  · exact hremoved (by decide) sharedPage.header ∅ rfl _
      (by decide)

/-- An origin that was listed beside the frame loses the camera to a
wildcard. -/
example :
    let frame : Frame := { origin := "https://b.example", allow := ∅ }
    frame.allows "https://a.example"
        (some (.ofList ["https://b.example", "https://c.example"]))
        "https://c.example" = true ∧
      frame.allows "https://a.example" (some .wildcard)
        "https://c.example" = false := by
  decide

end Policy

end FeatureGrant
