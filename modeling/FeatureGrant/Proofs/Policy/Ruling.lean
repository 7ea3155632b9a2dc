import FeatureGrant.Policy.Ruling
import FeatureGrant.Proofs.Policy.Construction

/-!
# Who is allowed

A policy allows a feature to a value if the value names an origin to check and
the ruling on that origin allows it.  Where neither the header nor the allow
attribute mentions the feature the ruling is that of its default; otherwise
both of them have to allow the origin.
-/

namespace FeatureGrant

namespace Policy

/-- The origin that is checked for a value: the policy's own one for a value
that counts as false, and none for a value that is no URL. -/
def checked? (p : Policy) (origin : Value) : Option String :=
  if origin.isFalsy then some p.ownOrigin else (originOf origin).toOption

/-- The default of a feature, `'self'` where none was given. -/
def defaultOf (p : Policy) (feature : String) : Default :=
  (p.defaults.get? feature).getD .self

/-- Whether the header or the allow attribute mentions a feature. -/
def Mentions (p : Policy) (feature : String) : Prop :=
  p.header.get? feature ≠ none ∨ p.fromFrame feature ≠ none

section

variable {p : Policy} {feature : String}

theorem mentions_of_header {a : Allowlist}
    (ha : p.header.get? feature = some a) : p.Mentions feature := by
  left
  rw [ha]
  exact nofun

theorem mentions_of_attribute {a : Allowlist}
    (ha : p.fromFrame feature = some a) : p.Mentions feature := by
  right
  rw [ha]
  exact nofun

theorem not_mentions_iff : ¬ p.Mentions feature ↔
    p.header.get? feature = none ∧ p.fromFrame feature = none := by
  rw [Mentions, not_or, Classical.not_not, Classical.not_not]

end

theorem isFalsy_text {s : String} (hs : s ≠ "") :
    (Value.text s).isFalsy = false := by
  simp [Value.isFalsy, hs]

theorem checked?_of_isFalsy_eq_false (p : Policy) {origin : Value}
    (horigin : origin.isFalsy = false) :
    p.checked? origin = (originOf origin).toOption := by
  rw [checked?, horigin, if_neg Bool.false_ne_true]

theorem checked?_text_of_ne_empty (p : Policy) {origin : String}
    (horigin : origin ≠ "") :
    p.checked? (.text origin) = canonical? origin := by
  rw [p.checked?_of_isFalsy_eq_false (isFalsy_text horigin), originOf,
    canonical?]
  cases canonicalize origin with
  | error fault => rfl
  | ok found => rfl

theorem checked?_empty (p : Policy) :
    p.checked? (.text "") = some p.ownOrigin := rfl

/-- A value is ruled on by the origin that is checked for it. -/
theorem evaluate_of_checked?_eq_some {p : Policy} {origin : Value}
    {checked : String} (hchecked : p.checked? origin = some checked)
    (feature : String) :
    p.evaluate feature origin = p.rule feature checked := by
  unfold checked? at hchecked
  unfold evaluate
  by_cases hfalsy : origin.isFalsy = true
  · rw [if_pos hfalsy] at hchecked ⊢
    rw [Option.some.inj hchecked]
  · rw [if_neg hfalsy] at hchecked ⊢
    cases horigin : originOf origin with
    | error fault =>
        rw [horigin] at hchecked
        exact nomatch hchecked
    | ok found =>
        rw [horigin] at hchecked
        obtain rfl := Option.some.inj hchecked
        rfl

/-- A value that names no origin to check is refused for that. -/
theorem evaluate_of_checked?_eq_none {p : Policy} {origin : Value}
    (hchecked : p.checked? origin = none) (feature : String) :
    p.evaluate feature origin =
      { allowed := false, reason := .notAnOrigin origin.shown,
        rule := .invalidOrigin, feature, origin := none } := by
  unfold checked? at hchecked
  unfold evaluate
  by_cases hfalsy : origin.isFalsy = true
  · rw [if_pos hfalsy] at hchecked
    exact nomatch hchecked
  · rw [if_neg hfalsy] at hchecked ⊢
    cases horigin : originOf origin with
    | error fault => rfl
    | ok found =>
        rw [horigin] at hchecked
        exact nomatch hchecked

theorem allows_eq_of_checked?_eq_some {p : Policy} {origin : Value}
    {checked : String} (hchecked : p.checked? origin = some checked)
    (feature : String) :
    p.allows feature origin = (p.rule feature checked).allowed := by
  rw [allows, evaluate_of_checked?_eq_some hchecked]

theorem allows_eq_false_of_checked?_eq_none {p : Policy} {origin : Value}
    (hchecked : p.checked? origin = none) (feature : String) :
    p.allows feature origin = false := by
  rw [allows, evaluate_of_checked?_eq_none hchecked]

theorem allows_eq_true_iff {p : Policy} {feature : String} {origin : Value} :
    p.allows feature origin = true ↔
      ∃ checked, p.checked? origin = some checked ∧
        (p.rule feature checked).allowed = true := by
  cases hchecked : p.checked? origin with
  | none => simp [allows_eq_false_of_checked?_eq_none hchecked]
  | some checked => simp [allows_eq_of_checked?_eq_some hchecked]

theorem rule_feature (p : Policy) (feature checked : String) :
    (p.rule feature checked).feature = feature := by
  unfold rule
  split
  next => rfl
  next => rfl

theorem rule_origin (p : Policy) (feature checked : String) :
    (p.rule feature checked).origin = some checked := by
  unfold rule
  split
  next => rfl
  next => rfl

/-- The answer of a policy names the feature that it was asked about. -/
theorem evaluate_feature (p : Policy) (feature : String) (origin : Value) :
    (p.evaluate feature origin).feature = feature := by
  unfold evaluate
  split
  next => exact p.rule_feature feature _
  next =>
    split
    next => exact p.rule_feature feature _
    next => rfl

/-! ## The two kinds of rulings -/

/-- A feature that is not mentioned is left to its default. -/
theorem rule_allowed_of_not_mentions {p : Policy} {feature : String}
    (hnot : ¬ p.Mentions feature) (checked : String) :
    (p.rule feature checked).allowed =
      (p.defaultVerdict (p.defaultOf feature) checked).1 := by
  obtain ⟨hheader, hframe⟩ := not_mentions_iff.mp hnot
  rw [rule, hheader, hframe]
  rfl

theorem explicitVerdict_fst (p : Policy) (checked : String)
    (fromHeader fromFrame : Option Allowlist) :
    (p.explicitVerdict checked fromHeader fromFrame).1 =
      (fromHeader.all (·.allows checked) &&
        p.frame.all fun frame => frame.allows p.page fromFrame checked) := by
  unfold explicitVerdict
  cases fromHeader.all (·.allows checked) with
  | false => rfl
  | true =>
      cases p.frame.all fun frame => frame.allows p.page fromFrame checked with
      | false => rfl
      | true =>
          cases fromFrame with
          | none => rfl
          | some a => rfl

/-- A feature that is mentioned is allowed where both the header and the allow
attribute allow it. -/
theorem rule_allowed_of_mentions {p : Policy} {feature : String}
    (hmentions : p.Mentions feature) (checked : String) :
    (p.rule feature checked).allowed =
      ((p.header.get? feature).all (·.allows checked) &&
        p.frame.all fun frame =>
          frame.allows p.page (p.fromFrame feature) checked) := by
  rw [← explicitVerdict_fst, rule]
  split
  next hheader hframe =>
    rcases hmentions with h | h
    · exact absurd hheader h
    · exact absurd hframe h
  next => rfl

end Policy

end FeatureGrant
