import FeatureGrant.Proofs.Origin.Text
import FeatureGrant.Proofs.Request
import FeatureGrant.Proofs.Resolution

/-!
# What an allow attribute allows

The allowlist that an allow attribute gives to a feature, with its keywords
resolved, allows in the frame what the targets of the last directive of that
feature allow.
-/

namespace FeatureGrant

namespace AllowAttribute

open FeatureGrant.Text

/-! ## The allowlist of a feature -/

/-- The directives that are read are those of the text, each with the
allowlist of its targets. -/
theorem directives_eq (value : String) :
    directives value.toList =
      (Request.directives value).map fun entry =>
        (entry.1, allowlist entry.2) := by
  rw [directives, Request.directives, List.map_filterMap]
  congr 1
  funext directive
  rw [directive?]
  cases (words directive).map String.ofList with
  | nil => rfl
  | cons feature targets => rfl

/-- A feature is mentioned if a directive starts with it, and gets the
allowlist of the targets of the last one. -/
theorem get?_read (value feature : String) :
    (read value).get? feature =
      ((Request.directives value).reverse.lookup feature).map allowlist := by
  rw [read, OrderedMap.get?_ofList, directives_eq, ← List.map_reverse]
  exact OrderedMap.lookup_map allowlist _ feature

/-! ## The allowlist with its keywords resolved -/

/-- A target names the origin that the text it is kept as stands for. -/
theorem targetOrigin?_eq (page frame target : String) :
    Request.targetOrigin? page frame target =
      (target? target).map (Allowlist.assign page frame) := by
  unfold Request.targetOrigin? target? Allowlist.assign
  by_cases hself : target = Keyword.self.text
  · simp [hself]
  · by_cases hsrc : target = Keyword.src.text
    · have hne : Keyword.src.text ≠ Keyword.self.text := by decide
      simp [hsrc, hne]
    · simp only [hself, hsrc, or_self, if_false]
      cases horigin : canonical? target with
      | none => rfl
      | some origin =>
          simp [ne_keyword_of_canonical? horigin .self,
            ne_keyword_of_canonical? horigin .src]

theorem none_not_mem_targets (targets : List String) :
    Keyword.none.text ∉ targets.filterMap target? := by
  intro hmem
  obtain ⟨target, -, htarget⟩ := List.mem_filterMap.mp hmem
  unfold target? at htarget
  split at htarget
  next h =>
    obtain rfl := Option.some.inj htarget
    revert h
    decide
  next => exact ne_keyword_of_canonical? htarget .none rfl

theorem mem_namedOrigins_iff {page frame x : String} {targets : List String} :
    x ∈ Request.namedOrigins page frame targets ↔
      (targets.filterMap target? = [] ∧ x = frame) ∨
        ∃ text ∈ targets.filterMap target?,
          Allowlist.assign page frame text = x := by
  have hnamed : targets.filterMap (Request.targetOrigin? page frame) =
      (targets.filterMap target?).map (Allowlist.assign page frame) := by
    rw [List.map_filterMap]
    congr 1
    funext target
    exact targetOrigin?_eq page frame target
  unfold Request.namedOrigins
  rw [hnamed, ← List.mem_map]
  cases targets.filterMap target? with
  | nil => simp
  | cons text rest => simp

theorem mem_resolve_targets_iff {page frame x : String}
    (hpage : page ≠ Keyword.src.text) (hframe : frame ≠ "")
    {targets : List String} :
    x ∈ ((Allowlist.ofList (targets.filterMap target?)).resolve page
        (some frame)).members ↔
      x ∈ Request.namedOrigins page frame targets :=
  (Allowlist.mem_resolve_ofList hpage hframe (none_not_mem_targets targets)).trans
    mem_namedOrigins_iff.symm

/-- The allowlist of targets allows in the frame, after resolution, what the
targets allow. -/
theorem allows_resolve_allowlist {page : String} {frame : Frame}
    (hpage : page ≠ Keyword.src.text) (hframe : frame.origin ≠ "")
    (checked : String) (targets : List String) :
    frame.allows page
        (some ((allowlist targets).resolve page (some frame.origin))) checked =
      Request.targetsAllow page frame.origin checked (some targets) := by
  unfold allowlist Request.targetsAllow
  dsimp only
  by_cases hstar : "*" ∈ targets
  · rw [if_pos hstar, if_pos hstar]
    rfl
  · rw [if_neg hstar, if_neg hstar]
    by_cases hnone : Keyword.none.text ∈ targets
    · rw [if_pos hnone, if_pos hnone]
      rfl
    · rw [if_neg hnone, if_neg hnone]
      have hset : (Allowlist.ofList (targets.filterMap target?)).resolve page
          (some frame.origin) =
            .origins ((Allowlist.ofList (targets.filterMap target?)).resolve page
              (some frame.origin)).members :=
        Allowlist.resolve_origins _
      rw [hset, Frame.allows]
      simp only [mem_resolve_targets_iff hpage hframe]

end AllowAttribute

end FeatureGrant
