import FeatureGrant.Proofs.Policy.Inheritance
import FeatureGrant.Proofs.Session.Immutability

/-!
# Inheriting in a session

A session hands the map of a policy's header on to the policy that a frame
inherits.  As that map is of normalized form, the answer is the policy that is
inherited from what the old one is at that moment, and a failure changes
nothing.
-/

namespace FeatureGrant.Session.State

variable {s : State}

/-- What a name stands for is a policy, which is `p` now. -/
def Denotes (s : State) (name : String) (p : Policy) : Prop :=
  ∃ n live, s.names.get? name = some (.object n) ∧
    s.policyAt? n = some live ∧ s.snapshot live = p

/-- A value describes a frame, the map of which is looked up now. -/
def Describes (s : State) (v : Value) (info : FrameInfo PolicyMap) : Prop :=
  ∃ w held, s.resolve v = .ok w ∧
    Arguments.frame s.registry w = .ok (some held) ∧
    held.mapAllow Held.content = info

/-! ## The maps of a policy -/

theorem IsNormalized.mapAt_eq {k : Nat} (hk : s.IsNormalized k) :
    s.mapAt k = { form := .normalized, grants := (s.mapAt k).grants } := by
  obtain ⟨grants, hgrants⟩ := hk
  rw [mapAt, hgrants]

theorem registry_header (hs : s.Separate) {n : Nat} {p : LivePolicy}
    (hp : s.policyAt? n = some p) :
    s.registry p.header =
      .policyMap { form := .normalized, grants := (s.snapshot p).header } := by
  obtain ⟨grants, hgrants⟩ :=
    hs.owned p.header ⟨n, p, hp, List.mem_cons_self⟩
  have hheader : (s.snapshot p).header = grants := by
    rw [snapshot, State.mapAt, hgrants]
  rw [registry, hgrants, hheader]
  rfl

theorem defaultValues_snapshot (p : LivePolicy) :
    (s.snapshot p).defaultValues.entries.map
        (fun entry => (Value.text entry.1, entry.2)) =
      p.defaults.entries.map
        fun entry => (Value.text entry.1, Value.text entry.2.text) :=
  List.map_map

/-! ## Answers -/

/-- A policy that is built is shown as it was built. -/
theorem build_map_snd (s : State) (name : Option String)
    (origin header defaults frame : Value) :
    (s.build name origin header defaults frame).map Prod.snd =
      (Arguments.policy s.registry origin header defaults frame).map
        Shown.policy := by
  rw [build]
  cases Arguments.policy s.registry origin header defaults frame with
  | error failure => rfl
  | ok q =>
      have hkept := policyAt?_eq_some_iff.mp (s.policyAt?_keepPolicy q)
      have hshown : (s.keepPolicy q).1.showRef (.object (s.keepPolicy q).2) =
          .policy q := by
        simp only [showRef, hkept, showContent, s.snapshot_keepPolicy q]
      exact congrArg Except.ok ((showRef_bind name _ _).trans hshown)

/-- What a frame inherits in a session it inherits from the named policy. -/
theorem step_inherit_snd (hs : s.Separate) {of : String} {p : Policy}
    (hp : s.Denotes of p) {frame : Value} {info : FrameInfo PolicyMap}
    (hinfo : s.Describes frame info) (name : Option String) :
    (s.step (.inherit name of frame)).2 =
      ((p.inherit info).mapError BuildFault.failure).map Shown.policy := by
  obtain ⟨n, live, hname, hlive, rfl⟩ := hp
  obtain ⟨v, held, hv, hheld, rfl⟩ := hinfo
  have hnamed : s.namedPolicy of "inherit" = .ok (n, live) :=
    namedPolicy_eq_ok_iff.mpr ⟨hname, hlive⟩
  have hbuilt := Arguments.policy_again (registry_header hs hlive) hheld ""
  rw [defaultValues_snapshot] at hbuilt
  rw [step_snd]
  simp only [perform, hnamed, hv]
  exact (s.build_map_snd name _ _ _ v).trans
    (congrArg (Except.map Shown.policy) hbuilt)

/-- A step that fails changes nothing. -/
theorem step_eq_of_snd_eq_error {step : Step} {failure : Failure}
    (h : (s.step step).2 = .error failure) :
    s.step step = (s, .error failure) := by
  unfold State.step at h ⊢
  cases hperform : s.perform step with
  | error failure' =>
      rw [hperform] at h
      exact congrArg (Prod.mk s) h
  | ok r =>
      rw [hperform] at h
      exact nomatch h

end FeatureGrant.Session.State
