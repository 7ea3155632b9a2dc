import FeatureGrant.Proofs.Command.Outcome
import FeatureGrant.Proofs.Console.Table
import FeatureGrant.Proofs.Policy.NormalForm
import FeatureGrant.Proofs.Policy.Targets

/-!
# Allow attributes in tables

The table of an allow attribute shows the allowlist of every feature before its
keywords are resolved.  The word `none` stands there for an allowlist that denies,
and only such a list allows no origin whatever the page and the frame are.  It
also stands for the set without members that a directive without a usable target
has, although a frame is allowed by it wherever it is embedded.
-/

namespace FeatureGrant

open FeatureGrant.Console FeatureGrant.Text

/-- Whether the normal form of a map for a page and a frame allows a feature to
those origins which are described, and to no others. -/
def PolicyMap.AllowsExactly (m : PolicyMap) (feature page frame : String)
    (allowed : String → Prop) : Prop :=
  ∃ n a, m.normalize page (some frame) = .ok n ∧
    n.grants.get? feature = some a ∧
    ∀ x, IsOrigin x → (a.allows x = true ↔ allowed x)

/-- Whether a map allows a feature to no origin, whatever the page and the frame
are. -/
def PolicyMap.IsShut (m : PolicyMap) (feature : String) : Prop :=
  ∀ page frame, IsOrigin page → IsOrigin frame →
    m.AllowsExactly feature page frame fun _ => False

namespace AllowAttribute

variable {targets : List String}

/-! ## The allowlist of a directive -/

/-- Targets list keywords that stand for an origin, and origins. -/
theorem member_cases {x : String} (hx : x ∈ (allowlist targets).members) :
    x = Keyword.self.text ∨ x = Keyword.src.text ∨ IsOrigin x := by
  obtain ⟨target, hmem, htarget⟩ := exists_target?_of_mem_allowlist hx
  rcases keyword_or_isOrigin_of_target? htarget with ⟨k, rfl⟩ | horigin
  · cases k with
    | self => exact Or.inl rfl
    | src => exact Or.inr (Or.inl rfl)
    | none =>
        exact absurd (List.mem_filterMap.mpr ⟨target, hmem, htarget⟩)
          (none_not_mem_targets targets)
  · exact Or.inr (Or.inr horigin)

/-- Targets give the set without members if none of them is usable. -/
theorem allowlist_eq_empty_iff :
    allowlist targets = .origins ∅ ↔ ∀ target ∈ targets, ¬IsUsable target := by
  constructor
  · intro hempty target hmem husable
    unfold allowlist at hempty
    split at hempty
    next => exact nomatch hempty
    next hstar =>
      split at hempty
      next => exact nomatch hempty
      next hnone =>
        rcases husable with rfl | rfl | htarget
        · exact hstar hmem
        · exact hnone hmem
        · obtain ⟨x, hx⟩ := Option.ne_none_iff_exists'.mp htarget
          have hlisted : x ∈ SortedSet.ofList (targets.filterMap target?) :=
            SortedSet.mem_ofList.mpr (List.mem_filterMap.mpr ⟨target, hmem, hx⟩)
          rw [Allowlist.origins.inj hempty] at hlisted
          exact SortedSet.not_mem_empty x hlisted
  · intro hunusable
    rw [allowlist_of_not_isUsable hunusable]
    rfl

/-- Targets that do not deny allow some origin in a frame of its own. -/
theorem exists_allows_of_ne_deny (hne : allowlist targets ≠ .deny) :
    ∃ x, IsOrigin x ∧ ((allowlist targets).resolve x (some x)).allows x = true := by
  have hexample : IsOrigin "https://a.example" :=
    ⟨"https://a.example", by decide⟩
  have hcases := @member_cases targets
  cases hlist : allowlist targets with
  | wildcard => exact ⟨_, hexample, rfl⟩
  | deny => exact absurd hlist hne
  | origins set =>
      rw [hlist] at hcases
      have hallows {x : String} (hx : IsOrigin x) :=
        @Allowlist.allows_resolve_origins_iff x (some x) hx
          (fun _ h => Option.some.inj h ▸ hx) set x
      have hnone : ¬ Keyword.none.text ∈ set := by
        intro hmem
        rcases hcases hmem with h | h | h
        · exact absurd h (by decide)
        · exact absurd h (by decide)
        · exact h.ne_keyword .none rfl
      by_cases hempty : ∀ y : String, ¬ y ∈ set
      · exact ⟨_, hexample, (hallows hexample).mpr
          ⟨hnone, hexample.ne_keyword, Or.inr (Or.inr ⟨rfl, Or.inr hempty⟩)⟩⟩
      · obtain ⟨y, hy⟩ := not_forall_not.mp hempty
        rcases hcases hy with rfl | rfl | hy'
        · exact ⟨_, hexample, (hallows hexample).mpr
            ⟨hnone, hexample.ne_keyword, Or.inr (Or.inl ⟨hy, rfl⟩)⟩⟩
        · exact ⟨_, hexample, (hallows hexample).mpr
            ⟨hnone, hexample.ne_keyword, Or.inr (Or.inr ⟨rfl, Or.inl hy⟩)⟩⟩
        · exact ⟨y, hy', (hallows hy').mpr
            ⟨hnone, hy'.ne_keyword, Or.inl hy⟩⟩

/-! ## The normal form of an attribute -/

/-- What the normal form of an attribute allows is what the allowlist of the last
directive allows once its keywords are resolved. -/
theorem allowsExactly_iff {value feature page frame : String}
    (htargets : (Request.directives value).reverse.lookup feature = some targets)
    (hpage : IsOrigin page) (hframe : IsOrigin frame) {allowed : String → Prop} :
    (parse value).AllowsExactly feature page frame allowed ↔
      ∀ x, IsOrigin x → (((allowlist targets).resolve page (some frame)).allows x =
        true ↔ allowed x) := by
  have hnormal := (parse value).normalize_eq_ok hpage.ne_keyword
    fun k h => hframe.ne_keyword k (Option.some.inj h)
  have hget : ((parse value).resolution page (some frame)).get? feature =
      some ((allowlist targets).resolve page (some frame)) := by
    change ((read value).resolve page (some frame)).get? feature = _
    rw [Grants.get?_resolve, get?_read, htargets]
    rfl
  constructor
  · rintro ⟨n, a, hn, ha, hallows⟩
    obtain rfl := Except.ok.inj (hnormal.symm.trans hn)
    obtain rfl := Option.some.inj (hget.symm.trans ha)
    exact hallows
  · intro hallows
    exact ⟨_, _, hnormal, hget, hallows⟩

/-- An attribute allows a feature to no origin if its last directive denies it. -/
theorem isShut_iff {value feature : String}
    (htargets : (Request.directives value).reverse.lookup feature = some targets) :
    (parse value).IsShut feature ↔ allowlist targets = .deny := by
  constructor
  · intro hshut
    by_contra hne
    obtain ⟨x, hx, hallows⟩ := exists_allows_of_ne_deny hne
    exact ((allowsExactly_iff htargets hx hx).mp (hshut x x hx hx) x hx).mp hallows
  · intro hdeny page frame hpage hframe
    rw [allowsExactly_iff htargets hpage hframe, hdeny]
    exact fun x _ => ⟨nofun, False.elim⟩

/-- A directive without a usable target allows a feature to the frame alone. -/
theorem allowsExactly_frame {value feature : String}
    (htargets : (Request.directives value).reverse.lookup feature = some targets)
    (hunusable : ∀ target ∈ targets, ¬IsUsable target) {page frame : String}
    (hpage : IsOrigin page) (hframe : IsOrigin frame) :
    (parse value).AllowsExactly feature page frame (· = frame) := by
  rw [allowsExactly_iff htargets hpage hframe,
    allowlist_eq_empty_iff.mpr hunusable]
  intro x hx
  rw [Allowlist.allows_resolve_origins_iff hpage
    fun _ h => Option.some.inj h ▸ hframe]
  constructor
  · rintro ⟨-, -, hmem | ⟨hmem, -⟩ | ⟨hsame, -⟩⟩
    · exact absurd hmem (SortedSet.not_mem_empty x)
    · exact absurd hmem (SortedSet.not_mem_empty _)
    · exact (Option.some.inj hsame).symm
  · rintro rfl
    exact ⟨SortedSet.not_mem_empty _, hx.ne_keyword,
      Or.inr (Or.inr ⟨rfl, Or.inr SortedSet.not_mem_empty⟩)⟩

/-- The feature of a directive is a word. -/
theorem isBlank_of_lookup_directives {value feature : String}
    (htargets : (Request.directives value).reverse.lookup feature = some targets)
    {c : Char} (hc : c ∈ feature.toList) : isBlank c = false := by
  obtain ⟨front, back, hsplit, -⟩ := List.lookup_eq_some_iff.mp htargets
  have hmem : (feature, targets) ∈ (Request.directives value).reverse :=
    hsplit ▸ List.mem_append_right front List.mem_cons_self
  rw [List.mem_reverse, Request.directives, List.mem_filterMap] at hmem
  obtain ⟨directive, -, hdirective⟩ := hmem
  cases hwords : words directive with
  | nil =>
      rw [hwords] at hdirective
      cases hdirective
  | cons word rest =>
      rw [hwords] at hdirective
      obtain ⟨rfl, -⟩ := Prod.mk.inj (Option.some.inj hdirective)
      rw [String.toList_ofList] at hc
      exact isBlank_of_mem_words (hwords ▸ List.mem_cons_self) hc

end AllowAttribute

namespace Command

variable {targets : List String}

/-! ## The cell of an allowlist -/

/-- A character of a member is found in the cell of its set. -/
theorem exists_mem_cellLines_allowlistCell {set : SortedSet} {x : String} {c : Char}
    (hx : x ∈ set) (hc : c ∈ x.toList) (hblank : isBlank c = false)
    (hslash : c ≠ '\\') (hshows : isShown c = true) :
    ∃ line ∈ cellLines (allowlistCell (.origins set)), c ∈ line.toList := by
  have hlisted : c ∈ ("\n".intercalate set.toList).toList := by
    rw [String.toList_intercalate]
    exact mem_intercalate_of_mem (List.mem_map_of_mem hx) hc
  have hempty : ¬ set.isEmpty = true := fun h => SortedSet.isEmpty_iff.mp h x hx
  rw [allowlistCell, if_neg hempty]
  exact exists_mem_cellLines_escape hlisted hblank hslash hshows

/-- The cell of an allowlist reads `none` if the list denies or has no member. -/
theorem cellLines_allowlistCell_eq_iff :
    cellLines (allowlistCell (AllowAttribute.allowlist targets)) = ["none"] ↔
      AllowAttribute.allowlist targets = .deny ∨
        AllowAttribute.allowlist targets = .origins ∅ := by
  have hnone : cellLines "[red]none[/red]" = ["none"] := by decide +kernel
  have hcases := @AllowAttribute.member_cases targets
  cases hlist : AllowAttribute.allowlist targets with
  | wildcard =>
      have hstar : cellLines "[green]*[/green]" ≠ ["none"] := by decide +kernel
      exact iff_of_false hstar (by rintro (h | h) <;> exact nomatch h)
  | deny => exact iff_of_true hnone (Or.inl rfl)
  | origins set =>
      rw [hlist] at hcases
      constructor
      · intro hlines
        refine Or.inr (congrArg _ (SortedSet.ext_mem fun x =>
          iff_of_false (fun hx => ?_) (SortedSet.not_mem_empty x)))
        have hletters {c : Char} (hc : c ∈ x.toList) (hblank : isBlank c = false)
            (hslash : c ≠ '\\') (hshows : isShown c = true) : c ∈ "none".toList := by
          obtain ⟨line, hline, hcline⟩ :=
            exists_mem_cellLines_allowlistCell hx hc hblank hslash hshows
          rw [hlines, List.mem_singleton] at hline
          exact hline ▸ hcline
        have hletter : ':' ∈ x.toList ∨ 's' ∈ x.toList := by
          rcases hcases hx with rfl | rfl | ⟨url, horigin⟩
          · exact Or.inr (by decide)
          · exact Or.inr (by decide)
          · exact Or.inl (colon_mem_of_canonical? horigin)
        rcases hletter with hc | hc
        · exact absurd (hletters hc (by decide) (by decide) (by decide)) (by decide)
        · exact absurd (hletters hc (by decide) (by decide) (by decide)) (by decide)
      · rintro (hdeny | hempty)
        · exact nomatch hdeny
        · obtain rfl := Allowlist.origins.inj hempty
          exact hnone

/-- Beside the name of a feature, the cell of its allowlist is read as it is. -/
theorem column_grantLines {feature : String}
    (hword : ∀ c ∈ feature.toList, isBlank c = false) (a : Allowlist) :
    column 1 (grantLines (feature, a)) = cellLines (allowlistCell a) := by
  have hline : '\n' ∉ feature.toList := fun hmem => nomatch hword _ hmem
  apply column_rowLines
  rw [length_cellLines_escape hline, cellLines, List.length_map]
  exact List.length_pos_of_ne_nil (List.splitOn_ne_nil _ _)

/-! ## The table of an attribute -/

/-- In the table of an allow attribute, the cell of a feature reads `none` if no
page and no frame let any origin have the feature.  It reads `none` as well if the
last directive of the feature has no usable target, although it allows the feature
to the frame then. -/
theorem parseAllow_reads_none_iff {resources : Resources} {words : List String}
    {value feature : String} {frameOrigin : Option String} {format : Format}
    (hread : Invocation.read words = .ok (.parseAllow value none frameOrigin format))
    (hjson : format.json = false)
    (htargets : (Request.directives value).reverse.lookup feature = some targets) :
    ∃ screen a,
      run resources words = .done 0 (.screen screen) ∧
      screen.rows = ["Feature", "Allowlist"] ::
        (AllowAttribute.parse value).grants.entries.flatMap grantLines ∧
      (AllowAttribute.parse value).grants.get? feature = some a ∧
      (column 1 (grantLines (feature, a)) = ["none"] ↔
        (AllowAttribute.parse value).IsShut feature ∨
          ∀ target ∈ targets, ¬AllowAttribute.IsUsable target) ∧
      ((∀ target ∈ targets, ¬AllowAttribute.IsUsable target) →
        ∀ page frame, IsOrigin page → IsOrigin frame →
          (AllowAttribute.parse value).AllowsExactly feature page frame (· = frame)) := by
  obtain ⟨output, hdone, hdocument, hshows⟩ :=
    exists_showMap_eq (Or.inr rfl) format (AllowAttribute.parse value)
  have hget : (AllowAttribute.parse value).grants.get? feature =
      some (AllowAttribute.allowlist targets) := by
    change (AllowAttribute.read value).get? feature = _
    rw [AllowAttribute.get?_read, htargets]
    rfl
  have hentries : ¬ (AllowAttribute.parse value).grants.entries.isEmpty = true := by
    intro hempty
    rw [OrderedMap.get?, List.isEmpty_iff.mp hempty] at hget
    cases hget
  cases output with
  | document v => cases hdocument.trans hjson
  | screen screen =>
      refine ⟨screen, _, ?_, ?_, hget, ?_, ?_⟩
      · rw [run, hread]
        exact hdone
      · rw [Output.ShowsMap, if_neg hentries] at hshows
        exact hshows
      · rw [column_grantLines fun _ hc =>
            AllowAttribute.isBlank_of_lookup_directives htargets hc,
          cellLines_allowlistCell_eq_iff, AllowAttribute.isShut_iff htargets,
          AllowAttribute.allowlist_eq_empty_iff]
      · intro hunusable page frame hpage hframe
        exact AllowAttribute.allowsExactly_frame htargets hunusable hpage hframe

/-- A feature that is denied reads `none`, among others that are not. -/
theorem parseAllow_deniedCamera :
    ∃ screen a,
      run noResources ["parse-allow", "midi; camera 'self' 'none'; usb *"] =
        .done 0 (.screen screen) ∧
      screen.rows = ["Feature", "Allowlist"] ::
        (AllowAttribute.parse
          "midi; camera 'self' 'none'; usb *").grants.entries.flatMap grantLines ∧
      (AllowAttribute.parse
        "midi; camera 'self' 'none'; usb *").grants.get? "camera" = some a ∧
      column 1 (grantLines ("camera", a)) = ["none"] ∧
      (AllowAttribute.parse "midi; camera 'self' 'none'; usb *").IsShut "camera" := by
  have hread : Invocation.read ["parse-allow", "midi; camera 'self' 'none'; usb *"] =
      .ok (.parseAllow "midi; camera 'self' 'none'; usb *" none none
        { json := false, debug := false }) :=
    toOption_eq_some_iff.mp (by decide)
  have htargets : (Request.directives
      "midi; camera 'self' 'none'; usb *").reverse.lookup "camera" =
        some [Keyword.self.text, Keyword.none.text] := by
    decide
  have hshut := (AllowAttribute.isShut_iff htargets).mpr (by decide)
  obtain ⟨screen, a, hdone, hrows, hget, hcell, -⟩ :=
    parseAllow_reads_none_iff hread rfl htargets
  exact ⟨screen, a, hdone, hrows, hget, hcell.mpr (Or.inl hshut), hshut⟩

/-- The directive that is only a feature reads `none`, although the frame has the
feature wherever it is embedded. -/
theorem parseAllow_bareCamera :
    ∃ screen,
      run noResources ["parse-allow", "camera"] = .done 0 (.screen screen) ∧
      screen.rows = [["Feature", "Allowlist"], ["camera", "none"]] ∧
      ¬ (AllowAttribute.parse "camera").IsShut "camera" ∧
      (AllowAttribute.parse "camera").AllowsExactly "camera" "https://a.example"
        "https://b.example" (· = "https://b.example") := by
  have htargets : (Request.directives "camera").reverse.lookup "camera" = some [] := by
    decide
  have hpage : IsOrigin "https://a.example" := ⟨"https://a.example", by decide⟩
  have hframe : IsOrigin "https://b.example" := ⟨"https://b.example", by decide⟩
  have hread : Invocation.read ["parse-allow", "camera"] =
      .ok (.parseAllow "camera" none none { json := false, debug := false }) :=
    toOption_eq_some_iff.mp (by decide)
  have hshow : ∀ text ∈ (mapSheet "allow" (AllowAttribute.parse "camera")).texts,
      isShowable text = true := by
    decide +kernel
  refine ⟨(mapSheet "allow" (AllowAttribute.parse "camera")).screen, ?_,
    by decide +kernel, ?_, ?_⟩
  · rw [run, hread]
    exact print_of_isShowable hshow fun screen => .done 0 (.screen screen)
  · rw [AllowAttribute.isShut_iff htargets]
    decide
  · exact AllowAttribute.allowsExactly_frame htargets (List.forall_mem_nil _) hpage hframe

end Command

end FeatureGrant
