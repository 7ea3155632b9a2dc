import FeatureGrant.Proofs.Schema
import FeatureGrant.Proofs.Session.Ownership
import FeatureGrant.Session.Step

/-!
# Making records

A record that is made from values shares the maps that the values lead to.  As
these are free, so are the maps of the record, and the state stays separate.
-/

namespace FeatureGrant.Session.State

variable {s : State}

/-- Whether a value leads to free objects only. -/
def IsOpen (s : State) (v : Value) : Prop := ∀ n ∈ v.objects, s.IsFree n

/-- Whether a map is new or free. -/
def MayKeep (s : State) (held : Held) : Prop :=
  ∀ n m, held = .shared n m → s.IsFree n ∧ s.IsMap n

/-- Whether the map of a described frame is new or free, if it has one. -/
def MayKeepFrame (s : State) (info : FrameInfo Held) : Prop :=
  ∀ held, info.allow = .map held → s.MayKeep held

/-! ## Where the maps of a record come from -/

theorem exists_content_of_registry {n : Nat} {i : Instance}
    (hinstance : s.registry n = i) (hi : ∀ name, i ≠ .other name) :
    ∃ c, s.objects[n]? = some c ∧ s.instanceOf c = i := by
  unfold registry at hinstance
  split at hinstance
  next c hc => exact ⟨c, hc, hinstance⟩
  next => exact absurd hinstance.symm (hi "")

theorem exists_content_of_instance? {v : Value} {i : Instance}
    (hinstance : s.registry.instance? v = i) (hi : ∀ name, i ≠ .other name) :
    ∃ n label c, v = .object n label ∧ s.objects[n]? = some c ∧
      s.instanceOf c = i := by
  cases v with
  | object n label =>
      obtain ⟨c, hc, hinstance⟩ := exists_content_of_registry hinstance hi
      exact ⟨n, label, c, rfl, hc, hinstance⟩
  | _ => exact absurd hinstance.symm (hi "")

/-- The entries of an open value are open. -/
theorem isOpen_of_mem_entries (hs : s.Separate) {v : Value} (hv : s.IsOpen v)
    {entries : List (Value × Value)}
    (hentries : s.registry.entries? v = some entries) {key w : Value}
    (hmem : (key, w) ∈ entries) : s.IsOpen w := by
  intro n hn
  cases v with
  | map fields =>
      obtain rfl := Option.some.inj hentries
      exact hv n
        (Value.mem_objectsOfEntries_iff.mpr ⟨(key, w), hmem, Or.inr hn⟩)
  | object number label =>
      simp only [Registry.entries?] at hentries
      split at hentries
      next name fields hmapping =>
        obtain rfl := Option.some.inj hentries
        obtain ⟨c, hc, hinstance⟩ := exists_content_of_registry hmapping nofun
        cases c with
        | mapping m =>
            obtain ⟨-, rfl⟩ := Instance.mapping.inj hinstance
            obtain ⟨entry, hentry, heq⟩ := List.mem_map.mp hmem
            obtain ⟨-, rfl⟩ := Prod.mk.inj heq
            exact (hs.admitted number _ hc).stored n
              (List.mem_flatMap.mpr ⟨entry, hentry, hn⟩)
        | _ => exact nomatch hinstance
      next => exact nomatch hentries
  | _ => exact nomatch hentries

theorem isOpen_of_field?_eq_some (hs : s.Separate) {v : Value}
    (hv : s.IsOpen v) {entries : List (Value × Value)}
    (hentries : s.registry.entries? v = some entries) {name : String}
    {w : Value} (hfield : Schema.field? name entries = some w) :
    s.IsOpen w := by
  obtain ⟨key, hmem⟩ := Schema.mem_of_field?_eq_some hfield
  exact isOpen_of_mem_entries hs hv hentries hmem

theorem mayKeep_held {n : Nat} (hfree : s.IsFree n) (hmap : s.IsMap n) :
    s.MayKeep (s.held n) := by
  intro k m heq
  obtain ⟨rfl, -⟩ := Held.shared.inj heq
  exact ⟨hfree, hmap⟩

theorem mayKeepFrame_mapAllow {info : FrameInfo Nat}
    (hshared : ∀ n ∈ sharedBy info, s.IsFree n ∧ s.IsMap n) :
    s.MayKeepFrame (info.mapAllow s.held) := by
  intro held hallow
  obtain ⟨origin, allow⟩ := info
  cases allow with
  | text value => exact nomatch hallow
  | map n =>
      obtain rfl := Source.map.inj hallow
      obtain ⟨hfree, hmap⟩ := hshared n (List.mem_singleton.mpr rfl)
      exact mayKeep_held hfree hmap

theorem mayKeep_policyMap {form : Form} {v : Value} (hv : s.IsOpen v)
    {held : Held} (hok : Schema.policyMap s.registry form v = .ok held) :
    s.MayKeep held := by
  intro n m hheld
  subst hheld
  rcases Schema.policyMap_eq_ok hok with ⟨m', hm', hshared⟩ | ⟨m', hfresh⟩
  · obtain ⟨k, label, c, rfl, hc, hinstance⟩ :=
      exists_content_of_instance? hm' nofun
    obtain ⟨rfl, rfl⟩ := Held.shared.inj hshared
    cases c with
    | policyMap m'' =>
        exact ⟨hv _ (List.mem_singleton.mpr rfl), m'', hc⟩
    | _ => exact nomatch hinstance
  · exact nomatch hfresh

theorem mayKeepFrame_frameInfo (hs : s.Separate) {v : Value}
    (hv : s.IsOpen v) {info : FrameInfo Held}
    (hok : Schema.frameInfo s.registry v = .ok info) :
    s.MayKeepFrame info := by
  rcases Schema.frameInfo_eq_ok hok with hinfo | ⟨entries, hentries, -, hfield⟩
  · obtain ⟨k, label, c, rfl, hc, hinstance⟩ :=
      exists_content_of_instance? hinfo nofun
    cases c with
    | frameInfo info' =>
        obtain rfl := Instance.frameInfo.inj hinstance
        exact mayKeepFrame_mapAllow (hs.admitted k _ hc).shared
    | _ => exact nomatch hinstance
  · intro held hallow
    rw [hallow] at hfield
    rcases Schema.optional_eq_ok hfield with ⟨-, hnone⟩ | ⟨w, hw, hsource⟩
    · exact nomatch hnone
    · obtain ⟨form, hmap⟩ := Schema.allowSource_eq_ok hsource
      exact mayKeep_policyMap (isOpen_of_field?_eq_some hs hv hentries hw) hmap

theorem mayKeep_frameContext (hs : s.Separate) {v : Value} (hv : s.IsOpen v)
    {origin : String} {allow : Held}
    (hok : Schema.frameContext s.registry v = .ok (origin, allow)) :
    s.MayKeep allow := by
  rcases Schema.frameContext_eq_ok hok with hcontext | ⟨entries, hentries, hfield⟩
  · obtain ⟨k, label, c, rfl, hc, hinstance⟩ :=
      exists_content_of_instance? hcontext nofun
    cases c with
    | frameContext origin' n =>
        obtain ⟨-, rfl⟩ := Instance.frameContext.inj hinstance
        obtain ⟨hfree, hmap⟩ :=
          (hs.admitted k _ hc).shared n (List.mem_singleton.mpr rfl)
        exact mayKeep_held hfree hmap
    | _ => exact nomatch hinstance
  · rcases Schema.optional_eq_ok hfield with ⟨-, rfl⟩ | ⟨w, hw, hmap⟩
    · exact nofun
    · exact mayKeep_policyMap (isOpen_of_field?_eq_some hs hv hentries hw) hmap

theorem mayKeepFrame_scenario (hs : s.Separate) {v : Value}
    (hv : s.IsOpen v) {c : Scenario Held}
    (hok : Schema.scenario s.registry v = .ok c) :
    ∀ info, c.frame = some info → s.MayKeepFrame info := by
  intro info hinfo
  rcases Schema.scenario_eq_ok hok with hscenario | ⟨entries, hentries, hfield⟩
  · obtain ⟨k, label, content, rfl, hc, hinstance⟩ :=
      exists_content_of_instance? hscenario nofun
    cases content with
    | scenario c' =>
        obtain rfl := Instance.scenario.inj hinstance
        obtain ⟨info', hinfo', rfl⟩ := Option.map_eq_some_iff.mp hinfo
        apply mayKeepFrame_mapAllow
        intro n hn
        apply (hs.admitted k _ hc).shared n
        rw [Content.shared, hinfo']
        exact hn
    | _ => exact nomatch hinstance
  · rw [hinfo] at hfield
    rcases Schema.optional_eq_ok hfield with ⟨-, hnone⟩ | ⟨w, hw, hframe⟩
    · exact nomatch hnone
    · unfold Schema.nullable at hframe
      split at hframe
      · exact nomatch hframe
      · obtain ⟨info', hinfo', heq⟩ := map_eq_ok_iff.mp hframe
        obtain rfl := Option.some.inj heq
        exact mayKeepFrame_frameInfo hs
          (isOpen_of_field?_eq_some hs hv hentries hw) hinfo'

/-! ## Keeping the maps -/

theorem evolves_keep (hs : s.Separate) {held : Held}
    (hheld : s.MayKeep held) :
    Evolves s (s.keep held).1 ∧ (s.keep held).1.IsFree (s.keep held).2 ∧
      (s.keep held).1.IsMap (s.keep held).2 := by
  cases held with
  | fresh m =>
      exact ⟨evolves_add hs (.policyMap m) ⟨nofun, nofun⟩ nofun,
        isFree_add hs (.policyMap m) nofun, isMap_add s m⟩
  | shared n m => exact ⟨Evolves.refl hs, hheld n m rfl⟩

theorem evolves_keepFrame (hs : s.Separate) {info : FrameInfo Held}
    (hinfo : s.MayKeepFrame info) :
    Evolves s (s.keepFrame info).1 ∧
      ∀ n ∈ sharedBy (s.keepFrame info).2, (s.keepFrame info).1.IsFree n ∧
        (s.keepFrame info).1.IsMap n := by
  obtain ⟨origin, allow⟩ := info
  cases allow with
  | text value => exact ⟨Evolves.refl hs, nofun⟩
  | map held =>
      obtain ⟨hevolves, hkept⟩ := evolves_keep hs (hinfo held rfl)
      refine ⟨hevolves, ?_⟩
      intro n hn
      obtain rfl := List.mem_singleton.mp hn
      exact hkept

theorem evolves_present (hs : s.Separate) {n : Nat} (hfree : s.IsFree n)
    (name : Option String) : Evolves s (s.present name n).1 := by
  apply evolves_bind hs
  intro k hk
  rw [← Ref.object.inj hk]
  exact hfree

/-- A new object may be named at once. -/
theorem evolves_add_present (hs : s.Separate) (c : Content)
    (hc : s.Admits c) (hpolicy : ∀ p, c ≠ .policy p) (name : Option String) :
    Evolves s ((s.add c).1.present name (s.add c).2).1 := by
  have hadd := evolves_add hs c hc hpolicy
  exact hadd.trans
    (evolves_present hadd.separate (isFree_add hs c hpolicy) name)

/-- Making a record changes no policy. -/
theorem evolves_make (hs : s.Separate) {name : Option String} {model : Model}
    {fields : Value} (hfields : s.IsOpen fields) {r : State × Shown}
    (hok : s.make name model fields = .ok r) : Evolves s r.1 := by
  cases model with
  | allowlist =>
      simp only [make, bind_eq_ok_iff, mapError_eq_ok_iff] at hok
      obtain ⟨a, -, hr⟩ := hok
      obtain rfl := Except.ok.inj hr
      exact evolves_add_present hs (.allowlist a) ⟨nofun, nofun⟩ nofun name
  | policyMap form =>
      simp only [make, bind_eq_ok_iff, mapError_eq_ok_iff] at hok
      obtain ⟨held, hheld, hr⟩ := hok
      obtain rfl := Except.ok.inj hr
      obtain ⟨hkeep, hfree, -⟩ := evolves_keep hs (mayKeep_policyMap hfields hheld)
      exact hkeep.trans (evolves_present hkeep.separate hfree name)
  | frameInfo =>
      simp only [make, bind_eq_ok_iff, mapError_eq_ok_iff] at hok
      obtain ⟨info, hinfo, hr⟩ := hok
      obtain rfl := Except.ok.inj hr
      obtain ⟨hkeep, hshared⟩ :=
        evolves_keepFrame hs (mayKeepFrame_frameInfo hs hfields hinfo)
      exact hkeep.trans (evolves_add_present hkeep.separate
        (.frameInfo (s.keepFrame info).2) ⟨nofun, hshared⟩ nofun name)
  | frameContext =>
      simp only [make, bind_eq_ok_iff, mapError_eq_ok_iff] at hok
      obtain ⟨⟨origin, held⟩, hcontext, hr⟩ := hok
      obtain rfl := Except.ok.inj hr
      obtain ⟨hkeep, hkept⟩ :=
        evolves_keep hs (mayKeep_frameContext hs hfields hcontext)
      apply hkeep.trans
      apply evolves_add_present hkeep.separate
        (.frameContext origin (s.keep held).2) ⟨nofun, ?_⟩ nofun name
      intro n hn
      obtain rfl := List.mem_singleton.mp hn
      exact hkept
  | decision =>
      simp only [make, bind_eq_ok_iff, mapError_eq_ok_iff] at hok
      obtain ⟨d, -, hr⟩ := hok
      obtain rfl := Except.ok.inj hr
      exact evolves_add_present hs (.decision d) ⟨nofun, nofun⟩ nofun name
  | scenario =>
      simp only [make, bind_eq_ok_iff, mapError_eq_ok_iff] at hok
      obtain ⟨⟨origin, header, defaults, frame⟩, hscenario, hr⟩ := hok
      obtain rfl := Except.ok.inj hr
      cases frame with
      | none =>
          exact evolves_add_present hs
            (.scenario { origin, header, defaults, frame := none })
            ⟨nofun, nofun⟩ nofun name
      | some info =>
          obtain ⟨hkeep, hshared⟩ := evolves_keepFrame hs
            (mayKeepFrame_scenario hs hfields hscenario info rfl)
          exact hkeep.trans (evolves_add_present hkeep.separate
            (.scenario { origin, header, defaults
                         frame := some (s.keepFrame info).2 })
            ⟨nofun, hshared⟩ nofun name)
  | page =>
      simp only [make, bind_eq_ok_iff, mapError_eq_ok_iff] at hok
      obtain ⟨p, -, hr⟩ := hok
      obtain rfl := Except.ok.inj hr
      exact evolves_add_present hs (.page p) ⟨nofun, nofun⟩ nofun name

end FeatureGrant.Session.State
