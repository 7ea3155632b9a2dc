import FeatureGrant.Policy.Decision
import FeatureGrant.Proofs.Policy.Inheritance

/-!
# Decisions explain themselves

The rule of a decision names the part of the policy that decided, and what it
names is to blame or to thank: no policy with the same header allows what the
header is said to deny, and listing the origin along with the frame in the
allow attribute is enough to allow what the attribute is said to deny.
-/

namespace FeatureGrant

/-! ## Rules in words -/

/-- The kind of part that a rule names. -/
inductive RuleKind
  | invalidOrigin
  | default
  | header
  | allowAttribute
  deriving DecidableEq

/-- How rules of this kind start. -/
def RuleKind.start : RuleKind → String
  | invalidOrigin => "invalid_origin"
  | default => "default_allowlist["
  | header => "header["
  | allowAttribute => "allow_attribute["

/-- The kind of a rule. -/
def Rule.kind : Rule → RuleKind
  | invalidOrigin => .invalidOrigin
  | default _ => .default
  | header _ => .header
  | allowAttribute _ | missingAttribute => .allowAttribute

/-- Whether there is an entry where a rule shows one. -/
def Rule.HasEntry : Rule → Prop
  | header entry | allowAttribute entry => entry ≠ none
  | _ => True

theorem Rule.kind_ofAttribute (entry : Option Allowlist) :
    (ofAttribute entry).kind = .allowAttribute := by
  cases entry with
  | none => rfl
  | some a => rfl

theorem Rule.hasEntry_ofAttribute (entry : Option Allowlist) :
    (ofAttribute entry).HasEntry := by
  cases entry with
  | none => exact trivial
  | some a => exact Option.some_ne_none a

theorem Rule.text_ofAttribute (entry : Option Allowlist) :
    (ofAttribute entry).text =
      "allow_attribute[" ++ entry.elim "missing" Allowlist.text ++ "]" := by
  cases entry with
  | none => rfl
  | some a => rfl

/-- Whether the rule that a decision shows starts in some way. -/
def Decision.RuleStarts (d : Decision) (start : String) : Prop :=
  ∃ rest, d.rule = some (start ++ rest)

theorem RuleKind.eq_of_head?_start (j k : RuleKind) :
    j.start.toList.head? = k.start.toList.head? → j = k := by
  cases j <;> cases k <;> decide

theorem RuleKind.head?_start_append (k : RuleKind) (rest : String) :
    (k.start ++ rest).toList.head? = k.start.toList.head? := by
  rw [String.toList_append]
  cases k <;> rfl

theorem Rule.exists_text (r : Rule) : ∃ rest, r.text = r.kind.start ++ rest := by
  cases r with
  | invalidOrigin => exact ⟨"", rfl⟩
  | default value => exact ⟨_, String.append_assoc ..⟩
  | header entry => exact ⟨_, String.append_assoc ..⟩
  | allowAttribute entry => exact ⟨_, String.append_assoc ..⟩
  | missingAttribute => exact ⟨"missing]", rfl⟩

/-- The first letter of a rule tells its kind. -/
theorem Rule.kind_eq_iff {r : Rule} {k : RuleKind} :
    (∃ rest, r.text = k.start ++ rest) ↔ r.kind = k := by
  constructor
  · rintro ⟨rest, hrest⟩
    obtain ⟨rest', hrest'⟩ := r.exists_text
    apply RuleKind.eq_of_head?_start
    rw [← RuleKind.head?_start_append r.kind rest', ← hrest', hrest,
      RuleKind.head?_start_append]
  · rintro rfl
    exact r.exists_text

theorem Ruling.ruleStarts_iff {r : Ruling} {k : RuleKind} :
    r.decision.RuleStarts k.start ↔ r.rule.kind = k := by
  rw [← Rule.kind_eq_iff, Decision.RuleStarts]
  simp only [decision, Option.some.injEq]

theorem Ruling.rule_eq_invalidOrigin_iff {r : Ruling} :
    r.decision.rule = some "invalid_origin" ↔ r.rule.kind = .invalidOrigin := by
  constructor
  · intro hrule
    exact ruleStarts_iff.mp ⟨"", hrule⟩
  · intro hkind
    rw [decision, Option.some.injEq]
    cases hr : r.rule with
    | invalidOrigin => rfl
    | default value => exact nomatch hr ▸ hkind
    | header entry => exact nomatch hr ▸ hkind
    | allowAttribute entry => exact nomatch hr ▸ hkind
    | missingAttribute => exact nomatch hr ▸ hkind

/-- No allowlist is written like a value that is missing. -/
theorem Allowlist.text_ne (a : Allowlist) : a.text ≠ "None" := by
  cases a with
  | wildcard => decide
  | deny => decide
  | origins set =>
      intro htext
      have hhead := congrArg (fun text => text.toList.head?) htext
      simp [text] at hhead

/-- A rule that has its entry shows no missing value in its place. -/
theorem Rule.text_ne {r : Rule} (hr : r.HasEntry) (k : RuleKind) :
    r.text ≠ k.start ++ "None]" := by
  have hshown (start : String) {entry : Option Allowlist} (hentry : entry ≠ none) :
      start ++ entryText entry ++ "]" ≠ start ++ "None" ++ "]" := by
    obtain ⟨a, rfl⟩ := Option.ne_none_iff_exists'.mp hentry
    intro h
    rw [String.append_left_inj, String.append_right_inj] at h
    exact a.text_ne h
  intro htext
  obtain rfl : r.kind = k := kind_eq_iff.mp ⟨"None]", htext⟩
  cases r with
  | invalidOrigin => exact absurd htext (by decide)
  | default value =>
      cases value <;> exact absurd htext (by decide)
  | header entry => exact hshown "header[" hr htext
  | allowAttribute entry => exact hshown "allow_attribute[" hr htext
  | missingAttribute => exact absurd htext (by decide)

theorem Ruling.rule_ne {r : Ruling} (hr : r.rule.HasEntry) (k : RuleKind) :
    r.decision.rule ≠ some (k.start ++ "None]") := by
  intro hrule
  exact Rule.text_ne hr k (Option.some.inj hrule)

namespace Policy

variable {p : Policy} {feature checked : String}

/-! ## The part that decides -/

/-- How a policy comes to a ruling, with one case for each part that decides. -/
inductive Decides (p : Policy) (feature checked : String) : Bool → Rule → Prop
  | default (allowed : Bool) (hnot : ¬ p.Mentions feature) :
      Decides p feature checked allowed (.default (p.defaultOf feature))
  | headerDenies {a : Allowlist} (hheader : p.header.get? feature = some a)
      (hdenies : a.allows checked = false) :
      Decides p feature checked false (.header (some a))
  | attributeDenies {frame : Frame} (hmentions : p.Mentions feature)
      (hframe : p.frame = some frame)
      (hheader : (p.header.get? feature).all (·.allows checked) = true)
      (hdenies : frame.allows p.page (p.fromFrame feature) checked = false) :
      Decides p feature checked false (.ofAttribute (p.fromFrame feature))
  | headerAllows {a : Allowlist} (hheader : p.header.get? feature = some a)
      (hnot : p.fromFrame feature = none) :
      Decides p feature checked true (.header (some a))
  | attributeAllows {b : Allowlist}
      (hattribute : p.fromFrame feature = some b) :
      Decides p feature checked true (.allowAttribute (some b))

theorem decides_explicitVerdict (hmentions : p.Mentions feature)
    (checked : String) :
    p.Decides feature checked
      (p.explicitVerdict checked (p.header.get? feature)
        (p.fromFrame feature)).1
      (p.explicitVerdict checked (p.header.get? feature)
        (p.fromFrame feature)).2.2 := by
  unfold explicitVerdict
  cases hheader : (p.header.get? feature).all (·.allows checked) with
  | false =>
      obtain ⟨a, ha, hdenies⟩ := (Option.all_eq_false _ _).mp hheader
      rw [ha]
      exact .headerDenies ha hdenies
  | true =>
      cases hgate : p.frame.all fun frame =>
          frame.allows p.page (p.fromFrame feature) checked with
      | false =>
          obtain ⟨frame, hframe, hdenies⟩ := (Option.all_eq_false _ _).mp hgate
          exact .attributeDenies hmentions hframe hheader hdenies
      | true =>
          cases hattribute : p.fromFrame feature with
          | some b => exact .attributeAllows hattribute
          | none =>
              obtain ⟨a, ha⟩ := Option.ne_none_iff_exists'.mp
                (hmentions.resolve_right fun h => h hattribute)
              rw [ha]
              exact .headerAllows ha hattribute

/-- Every ruling comes about in one of these ways. -/
theorem decides_rule (p : Policy) (feature checked : String) :
    p.Decides feature checked (p.rule feature checked).allowed
      (p.rule feature checked).rule := by
  by_cases hmentions : p.Mentions feature
  · have hverdict := decides_explicitVerdict hmentions checked
    unfold rule
    split
    next hheader hframe =>
      rcases hmentions with h | h
      · exact absurd hheader h
      · exact absurd hframe h
    next => exact hverdict
  · obtain ⟨hheader, hframe⟩ := not_mentions_iff.mp hmentions
    rw [rule, hheader, hframe]
    exact .default _ hmentions

section

variable {allowed : Bool} {rule : Rule}

theorem Decides.kind_ne_invalidOrigin
    (h : p.Decides feature checked allowed rule) :
    rule.kind ≠ .invalidOrigin := by
  cases h with
  | default allowed hnot => exact nofun
  | headerDenies hheader hdenies => exact nofun
  | attributeDenies hmentions hframe hheader hdenies =>
      rw [Rule.kind_ofAttribute]
      exact nofun
  | headerAllows hheader hnot => exact nofun
  | attributeAllows hattribute => exact nofun

/-- Only a part that has an entry is shown with one. -/
theorem Decides.hasEntry (h : p.Decides feature checked allowed rule) :
    rule.HasEntry := by
  cases h with
  | default allowed hnot => exact trivial
  | headerDenies hheader hdenies => exact Option.some_ne_none _
  | attributeDenies hmentions hframe hheader hdenies =>
      exact Rule.hasEntry_ofAttribute _
  | headerAllows hheader hnot => exact Option.some_ne_none _
  | attributeAllows hattribute => exact Option.some_ne_none _

/-- A default decides about the features that are not mentioned. -/
theorem Decides.kind_eq_default_iff
    (h : p.Decides feature checked allowed rule) :
    rule.kind = .default ↔ ¬ p.Mentions feature := by
  cases h with
  | default allowed hnot => exact iff_of_true rfl hnot
  | headerDenies hheader hdenies =>
      exact iff_of_false nofun (not_not_intro (mentions_of_header hheader))
  | attributeDenies hmentions hframe hheader hdenies =>
      rw [Rule.kind_ofAttribute]
      exact iff_of_false nofun (not_not_intro hmentions)
  | headerAllows hheader hnot =>
      exact iff_of_false nofun (not_not_intro (mentions_of_header hheader))
  | attributeAllows hattribute =>
      exact iff_of_false nofun
        (not_not_intro (mentions_of_attribute hattribute))

/-- A rule of the header shows what the header says. -/
theorem Decides.exists_header (h : p.Decides feature checked allowed rule)
    (hkind : rule.kind = .header) :
    ∃ a, p.header.get? feature = some a ∧ rule = .header (some a) ∧
      (allowed = false → a.allows checked = false) ∧
      (allowed = true → p.fromFrame feature = none) := by
  cases h with
  | default allowed hnot => exact nomatch hkind
  | headerDenies hheader hdenies =>
      exact ⟨_, hheader, rfl, fun _ => hdenies, nofun⟩
  | attributeDenies hmentions hframe hheader hdenies =>
      rw [Rule.kind_ofAttribute] at hkind
      cases hkind
  | headerAllows hheader hnot => exact ⟨_, hheader, rfl, nofun, fun _ => hnot⟩
  | attributeAllows hattribute => exact nomatch hkind

/-- A rule of the allow attribute shows what the attribute says. -/
theorem Decides.rule_eq_ofAttribute
    (h : p.Decides feature checked allowed rule)
    (hkind : rule.kind = .allowAttribute) :
    rule = .ofAttribute (p.fromFrame feature) ∧
      (allowed = false → ∃ frame, p.frame = some frame ∧
        (p.header.get? feature).all (·.allows checked) = true) := by
  cases h with
  | default allowed hnot => exact nomatch hkind
  | headerDenies hheader hdenies => exact nomatch hkind
  | attributeDenies hmentions hframe hheader hdenies =>
      exact ⟨rfl, fun _ => ⟨_, hframe, hheader⟩⟩
  | headerAllows hheader hnot => exact nomatch hkind
  | attributeAllows hattribute => exact ⟨by rw [hattribute]; rfl, nofun⟩

end

/-! ## What a rule promises -/

theorem checked?_text_eq_none_iff {origin : String} :
    p.checked? (.text origin) = none ↔
      origin ≠ "" ∧ canonical? origin = none := by
  by_cases hempty : origin = ""
  · rw [hempty, checked?_empty]
    exact iff_of_false nofun (fun h => h.1 rfl)
  · rw [checked?_text_of_ne_empty p hempty]
    exact (and_iff_right hempty).symm

/-- What the header denies it denies whatever else a policy says. -/
theorem allows_eq_false_of_header {a : Allowlist}
    (ha : p.header.get? feature = some a) (hdenies : a.allows checked = false)
    {asked : Value} (hasked : p.checked? asked = some checked) :
    p.allows feature asked = false := by
  rw [allows_eq_of_checked?_eq_some hasked]
  by_contra hallowed
  rw [Bool.not_eq_false] at hallowed
  rw [header_allows_of_rule ha hallowed] at hdenies
  exact nomatch hdenies

end Policy

/-- A frame whose allow attribute lists an origin and the frame itself for a
feature. -/
def Frame.listing (frame : Frame) (feature checked : String) : Frame :=
  { frame with
    allow := frame.allow.insert feature (.ofList [checked, frame.origin]) }

namespace Policy

variable {p : Policy} {feature checked : String}

/-- The same policy, with a frame whose allow attribute lists an origin and the
frame itself for a feature. -/
def listing (p : Policy) (feature checked : String) : Policy :=
  { p with frame := p.frame.map (·.listing feature checked) }

theorem checked?_listing (p : Policy) (feature checked : String)
    (asked : Value) :
    (p.listing feature checked).checked? asked = p.checked? asked := by
  unfold checked? ownOrigin listing
  rw [Option.map_map]
  rfl

/-- Once the allow attribute lists an origin and the frame, only the header can
deny the origin. -/
theorem rule_allowed_listing {frame : Frame} (hframe : p.frame = some frame)
    (hheader : (p.header.get? feature).all (·.allows checked) = true) :
    ((p.listing feature checked).rule feature checked).allowed = true := by
  have hlisting : (p.listing feature checked).frame =
      some (frame.listing feature checked) := by
    rw [listing, hframe, Option.map_some]
  have hattribute : (p.listing feature checked).fromFrame feature =
      some (.ofList [checked, frame.origin]) := by
    rw [fromFrame, hlisting, Option.bind_some, Frame.listing,
      OrderedMap.get?_insert, if_pos rfl]
  rw [rule_allowed_of_mentions (mentions_of_attribute hattribute), hlisting,
    hattribute, Option.all_some, Bool.and_eq_true]
  refine ⟨hheader, ?_⟩
  simp [Frame.allows, Allowlist.ofList, Frame.listing]

/-- Whether a decision on a feature for an origin explains itself: it names the
origin that was checked, its rule shows the entry of the part that decided, and
what the rule says of that part holds. -/
structure Explains (p : Policy) (feature origin : String) (d : Decision) :
    Prop where
  checked : d.origin = p.checked? (.text origin)
  invalid : d.rule = some "invalid_origin" ↔
    origin ≠ "" ∧ canonical? origin = none
  refused : d.rule = some "invalid_origin" → d.allowed = false
  default : d.rule ≠ some "invalid_origin" →
    (d.RuleStarts "default_allowlist[" ↔
      p.header.get? feature = none ∧ p.fromFrame feature = none)
  headerEntry : d.RuleStarts "header[" → ∃ a, p.header.get? feature = some a ∧
    d.rule = some ("header[" ++ a.text ++ "]")
  headerDenies : d.allowed = false → d.RuleStarts "header[" →
    ∀ q : Policy, q.header.get? feature = p.header.get? feature →
      ∀ asked, q.checked? asked = p.checked? (.text origin) →
        q.allows feature asked = false
  headerAllows : d.allowed = true → d.RuleStarts "header[" →
    p.fromFrame feature = none
  attributeEntry : d.RuleStarts "allow_attribute[" → d.rule = some
    ("allow_attribute[" ++
      (p.fromFrame feature).elim "missing" Allowlist.text ++ "]")
  attributeDenies : d.allowed = false → d.RuleStarts "allow_attribute[" →
    ∃ frame checked, p.frame = some frame ∧
      p.checked? (.text origin) = some checked ∧
        (p.listing feature checked).allows feature (.text origin) = true
  shown : d.rule ≠ some "header[None]" ∧
    d.rule ≠ some "allow_attribute[None]"

/-- The refusal of a text that is no URL explains itself. -/
theorem explains_of_checked?_eq_none {origin : String}
    (hchecked : p.checked? (.text origin) = none) :
    p.Explains feature origin
      (p.evaluate feature (.text origin)).decision := by
  have heval := evaluate_of_checked?_eq_none hchecked feature
  have hkind : (p.evaluate feature (.text origin)).rule.kind =
      .invalidOrigin := by
    rw [heval]
    rfl
  have hdenied : (p.evaluate feature (.text origin)).allowed = false := by
    rw [heval]
  have hstarts {k : RuleKind} (hk : k ≠ .invalidOrigin) :
      ¬ (p.evaluate feature (.text origin)).decision.RuleStarts k.start := by
    intro h
    exact hk ((Ruling.ruleStarts_iff.mp h).symm.trans hkind)
  have hheader := hstarts (k := .header) nofun
  have hattribute := hstarts (k := .allowAttribute) nofun
  have hinvalid := Ruling.rule_eq_invalidOrigin_iff.mpr hkind
  have hentry : (p.evaluate feature (.text origin)).rule.HasEntry := by
    rw [heval]
    exact trivial
  exact {
    checked := by
      rw [hchecked, heval]
      rfl
    invalid := iff_of_true hinvalid (checked?_text_eq_none_iff.mp hchecked)
    refused := fun _ => hdenied
    default := fun h => absurd hinvalid h
    headerEntry := fun h => absurd h hheader
    headerDenies := fun _ h => absurd h hheader
    headerAllows := fun _ h => absurd h hheader
    attributeEntry := fun h => absurd h hattribute
    attributeDenies := fun _ h => absurd h hattribute
    shown := ⟨Ruling.rule_ne hentry .header, Ruling.rule_ne hentry .allowAttribute⟩ }

/-- A ruling on an origin explains itself. -/
theorem explains_of_checked?_eq_some {origin : String}
    (hchecked : p.checked? (.text origin) = some checked) :
    p.Explains feature origin
      (p.evaluate feature (.text origin)).decision := by
  have hdecides := p.decides_rule feature checked
  have hinvalid : ¬ (p.rule feature checked).decision.rule =
      some "invalid_origin" := by
    rw [Ruling.rule_eq_invalidOrigin_iff]
    exact hdecides.kind_ne_invalidOrigin
  rw [evaluate_of_checked?_eq_some hchecked]
  exact {
    checked := by
      rw [hchecked]
      exact p.rule_origin feature checked
    invalid := by
      apply iff_of_false hinvalid
      rw [← checked?_text_eq_none_iff (p := p), hchecked]
      exact nofun
    refused := fun h => absurd h hinvalid
    default := by
      intro _
      rw [← not_mentions_iff, ← hdecides.kind_eq_default_iff]
      exact Ruling.ruleStarts_iff (k := .default)
    headerEntry := by
      intro hstarts
      obtain ⟨a, ha, hrule, -⟩ :=
        hdecides.exists_header (Ruling.ruleStarts_iff.mp hstarts)
      refine ⟨a, ha, ?_⟩
      rw [Ruling.decision, hrule]
      rfl
    headerDenies := by
      intro hdenied hstarts q hq asked hasked
      obtain ⟨a, ha, -, hdenies, -⟩ :=
        hdecides.exists_header (Ruling.ruleStarts_iff.mp hstarts)
      exact allows_eq_false_of_header (hq.trans ha) (hdenies hdenied)
        (hasked.trans hchecked)
    headerAllows := by
      intro hallowed hstarts
      obtain ⟨a, -, -, -, hnot⟩ :=
        hdecides.exists_header (Ruling.ruleStarts_iff.mp hstarts)
      exact hnot hallowed
    attributeEntry := by
      intro hstarts
      obtain ⟨hrule, -⟩ :=
        hdecides.rule_eq_ofAttribute (Ruling.ruleStarts_iff.mp hstarts)
      rw [Ruling.decision, hrule, Rule.text_ofAttribute]
    attributeDenies := by
      intro hdenied hstarts
      obtain ⟨-, hdenies⟩ :=
        hdecides.rule_eq_ofAttribute (Ruling.ruleStarts_iff.mp hstarts)
      obtain ⟨frame, hframe, hheader⟩ := hdenies hdenied
      refine ⟨frame, checked, hframe, hchecked, ?_⟩
      rw [allows_eq_of_checked?_eq_some
        ((p.checked?_listing feature checked _).trans hchecked)]
      exact rule_allowed_listing hframe hheader
    shown := ⟨Ruling.rule_ne hdecides.hasEntry .header,
      Ruling.rule_ne hdecides.hasEntry .allowAttribute⟩ }

/-- Decisions explain themselves. -/
theorem explains_evaluate (p : Policy) (feature origin : String) :
    p.Explains feature origin
      (p.evaluate feature (.text origin)).decision := by
  cases hchecked : p.checked? (.text origin) with
  | none => exact explains_of_checked?_eq_none hchecked
  | some checked => exact explains_of_checked?_eq_some hchecked

/-- A page that gives its camera to the frame in it, which keeps it, and its
USB ports to nobody else. -/
def callPage : Policy where
  page := "https://a.example"
  header := .ofList
    [("camera", .ofList ["https://a.example", "https://b.example"]),
      ("usb", .ofList ["https://a.example"])]
  defaults := ∅
  frame := some {
    origin := "https://b.example"
    allow := .ofList [("camera", .ofList ["https://b.example"])] }

/-- The header denies the USB ports to the frame, whatever the frame is given,
and the camera is denied to the page for want of an entry in the attribute. -/
theorem callPage_explains :
    (∀ q : Policy, q.header.get? "usb" = callPage.header.get? "usb" →
      q.allows "usb" (.text "https://b.example") = false) ∧
    (callPage.listing "camera" "https://a.example").allows "camera"
      (.text "https://a.example") = true := by
  constructor
  · intro q hq
    apply (explains_evaluate callPage "usb" "https://b.example").headerDenies
      (by decide) ⟨"(https://a.example)]", by decide⟩ q hq
    rw [checked?_text_of_ne_empty q (by decide),
      checked?_text_of_ne_empty callPage (by decide)]
  · obtain ⟨frame, checked, hframe, hchecked, hallows⟩ :=
      (explains_evaluate callPage "camera" "https://a.example").attributeDenies
        (by decide) ⟨"(https://b.example)]", by decide⟩
    have hpage : callPage.checked? (.text "https://a.example") =
        some "https://a.example" := by decide
    obtain rfl := Option.some.inj (hpage.symm.trans hchecked)
    exact hallows

end Policy

end FeatureGrant
