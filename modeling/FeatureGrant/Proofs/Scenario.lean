import FeatureGrant.Proofs.Policy.Failure
import FeatureGrant.Proofs.Schema
import FeatureGrant.Scenario.Load

/-!
# Scenarios that were loaded

A scenario that was loaded has passed the checks of its parts: its frame has a
URL, and the map of an allow attribute that claims to be resolved is.  So if no
policy can be built from it, a fault of the library is reported.
-/

namespace FeatureGrant

namespace Schema

variable {known : Registry}

theorem ne_empty_of_nonemptyText {v : Value} {s : String}
    (hok : nonemptyText v = .ok s) : s ≠ "" := by
  unfold nonemptyText at hok
  split at hok
  next => exact nomatch hok
  next hne =>
    rintro rfl
    exact hne hok

theorem form_of_heldMap {form : Form} {v : Value} {held : Held}
    (hok : heldMap known form v = .ok held) : held.content.form = form := by
  unfold heldMap at hok
  split at hok
  next m hm =>
    split at hok
    next hform =>
      obtain rfl := Except.ok.inj hok
      exact hform
    next => exact nomatch hok
  next =>
    obtain ⟨grants, -, rfl⟩ := map_eq_ok_iff.mp hok
    rfl

/-- A map that was checked may be used. -/
theorem isValid_of_policyMap {form : Form} {v : Value} {held : Held}
    (hok : policyMap known form v = .ok held) : held.content.IsValid := by
  rw [policyMap, bind_eq_ok_iff] at hok
  obtain ⟨found, hfound, hok⟩ := hok
  have hform := form_of_heldMap hfound
  cases form with
  | parsed =>
      obtain rfl := Except.ok.inj hok
      intro hnormalized
      cases hform.symm.trans hnormalized
  | normalized =>
      obtain ⟨_, hresolved, hok⟩ := bind_eq_ok_iff.mp hok
      obtain rfl := Except.ok.inj hok
      intro _
      unfold resolved at hresolved
      split at hresolved
      next => cases hresolved
      next hnone => exact hnone

/-- What holds of the frame in a scenario that was loaded. -/
structure IsChecked (info : FrameInfo Held) : Prop where
  origin : info.origin ≠ ""
  allow : (info.mapAllow Held.content).attribute.IsValid

theorem isChecked_of_frameInfo {v : Value} {info : FrameInfo Held}
    (hfresh : ∀ held, known.instance? v ≠ .frameInfo held)
    (hok : frameInfo known v = .ok info) : IsChecked info := by
  rcases frameInfo_eq_ok hok with hheld | ⟨entries, -, horigin, hallow⟩
  · exact absurd hheld (hfresh info)
  obtain ⟨w, -, hw⟩ := required_eq_ok horigin
  refine ⟨ne_empty_of_nonemptyText hw, ?_⟩
  obtain ⟨origin, allow⟩ := info
  cases allow with
  | text s => exact nofun
  | map held =>
      rcases optional_eq_ok hallow with ⟨-, habsent⟩ | ⟨w, -, hsource⟩
      · exact nomatch habsent
      · obtain ⟨form, hmap⟩ := allowSource_eq_ok hsource
        exact isValid_of_policyMap hmap

theorem isChecked_of_scenario {v : Value} {s : Scenario Held}
    (hok : scenario .none v = .ok s) : ∀ info ∈ s.frame, IsChecked info := by
  intro info hinfo
  have hnone (w : Value) : Registry.none.instance? w = .other "" := by
    cases w with
    | object n label => rfl
    | _ => rfl
  rcases scenario_eq_ok hok with hheld | ⟨entries, -, hframe⟩
  · exact nomatch (hnone v).symm.trans hheld
  rcases optional_eq_ok hframe with ⟨-, habsent⟩ | ⟨w, -, hframe⟩
  · exact nomatch habsent.symm.trans hinfo
  · rw [Option.mem_def.mp hinfo] at hframe
    unfold nullable at hframe
    split at hframe
    next => exact nomatch hframe
    next =>
      obtain ⟨found, hfound, hsome⟩ := map_eq_ok_iff.mp hframe
      obtain rfl := Option.some.inj hsome
      exact isChecked_of_frameInfo (fun held h => nomatch (hnone w).symm.trans h)
        hfound

end Schema

namespace Scenario

variable {content : List UInt8} {s : Scenario Held}

/-- The frame of a scenario that was loaded has passed its checks. -/
theorem isChecked_of_ofBytes (hload : ofBytes content = .ok s) :
    ∀ info ∈ s.frame, Schema.IsChecked info := by
  unfold ofBytes at hload
  split at hload
  next => exact nomatch hload
  next chars _ =>
    unfold ofText at hload
    split at hload
    next => exact nomatch hload
    next => exact nomatch hload
    next value _ =>
      exact Schema.isChecked_of_scenario (mapError_eq_ok_iff.mp hload)

/-- A scenario that was loaded and makes no policy is reported. -/
theorem isReported_of_policy (hload : ofBytes content = .ok s)
    {fault : BuildFault} (hfault : s.policy = .error fault) :
    fault.failure.IsReported := by
  refine Policy.isReported_of_build ?_ hfault
  intro info hinfo
  obtain ⟨held, hheld, rfl⟩ := Option.mem_map.mp hinfo
  exact (isChecked_of_ofBytes hload held hheld).allow

end Scenario

end FeatureGrant
