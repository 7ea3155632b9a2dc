import FeatureGrant.Proofs.Session.Records

/-!
# Runs of steps

A step is literal if its values are, as those of every step that is written
down: they name the objects that they refer to.  One literal step keeps a
separate state separate and every policy what it is; by induction so does any
number of them.
-/

namespace FeatureGrant.Session

/-- The values that are given with a step. -/
def Step.values : Step → List Value
  | .letMapping _ value | .parseHeader _ value | .parseAllow _ value => [value]
  | .make _ _ fields => [fields]
  | .normalize _ _ page src => [page, src]
  | .policy _ origin header defaults frame => [origin, header, defaults, frame]
  | .inherit _ _ frame => [frame]
  | .evaluate _ _ origin | .allows _ _ origin => [origin]
  | .allowedFeatures _ origin => [origin]
  | .set _ _ value => [value]
  | .get .. | .look _ | .same .. | .contains .. | .features _ | .assign .. => []

/-- Whether a step refers to objects by their names only. -/
def Step.Literal (step : Step) : Prop := ∀ v ∈ step.values, v.Literal

instance (step : Step) : Decidable step.Literal :=
  inferInstanceAs (Decidable (∀ v ∈ step.values, v.Literal))

namespace State

variable {s t : State}

theorem isOpen_of_resolve (hs : s.Separate) {v w : Value} (hv : v.Literal)
    (hok : s.resolve v = .ok w) : s.IsOpen w := by
  intro n hn
  exact hs.named n (names_of_mem_objects_resolve hv hok hn)

theorem isFree_of_names (hs : s.Separate) {name : String} {ref : Ref}
    (hname : s.names.get? name = some ref) :
    ∀ n, ref = .object n → s.IsFree n := by
  rintro n rfl
  exact hs.named n ⟨name, hname⟩

/-! ## Policies -/

theorem namedPolicy_eq_ok_iff {name wanted : String} {n : Nat}
    {p : LivePolicy} :
    s.namedPolicy name wanted = .ok (n, p) ↔
      s.names.get? name = some (.object n) ∧ s.policyAt? n = some p := by
  simp only [namedPolicy, bind_eq_ok_iff, lookup_eq_ok_iff]
  constructor
  · rintro ⟨ref, href, hok⟩
    split at hok
    next number =>
      split at hok
      next found hfound =>
        obtain ⟨rfl, rfl⟩ := Prod.mk.inj (Except.ok.inj hok)
        exact ⟨href, hfound⟩
      next => exact nomatch hok
    next => exact nomatch hok
  · rintro ⟨hname, hp⟩
    refine ⟨.object n, hname, ?_⟩
    simp only [hp]

/-- A policy is no map, so no other policy owns it. -/
theorem isFree_of_policyAt? (hs : s.Separate) {k : Nat} {p : LivePolicy}
    (hp : s.policyAt? k = some p) : s.IsFree k := by
  rw [policyAt?_eq_some_iff] at hp
  refine ⟨(List.getElem?_eq_some_iff.mp hp).1, ?_⟩
  intro howns
  obtain ⟨grants, hm⟩ := hs.owned k howns
  rw [hp] at hm
  exact nomatch hm

theorem append_getElem?_length_add (contents : List Content) (i : Nat) :
    (s.append contents).objects[s.objects.length + i]? = contents[i]? := by
  rw [append, List.getElem?_append_right (Nat.le_add_right _ i),
    Nat.add_sub_cancel_left]

/-- The maps of a policy as objects. -/
def mapsOf (p : Policy) : List Content :=
  .policyMap { form := .normalized, grants := p.header } ::
    (p.frame.map fun frame =>
      .policyMap { form := .normalized, grants := frame.allow }).toList

/-- A policy whose maps are numbered from `n` on. -/
def livePolicy (p : Policy) (n : Nat) : LivePolicy :=
  { page := p.page, header := n, defaults := p.defaults
    frame := p.frame.map fun frame => (frame.origin, n + 1) }

theorem keepPolicy_eq (s : State) (p : Policy) :
    s.keepPolicy p =
      (s.append (mapsOf p ++ [.policy (livePolicy p s.objects.length)]),
        s.objects.length + (mapsOf p).length) := by
  obtain ⟨page, header, defaults, frame⟩ := p
  cases frame with
  | none => simp [keepPolicy, add, append, mapsOf, livePolicy]
  | some frame => simp [keepPolicy, add, append, mapsOf, livePolicy]

theorem exists_of_mem_mapsOf {p : Policy} {c : Content} (hc : c ∈ mapsOf p) :
    ∃ grants, c = .policyMap { form := .normalized, grants } := by
  rcases List.mem_cons.mp hc with rfl | hc
  · exact ⟨_, rfl⟩
  · obtain ⟨frame, -, rfl⟩ := Option.map_eq_some_iff.mp (Option.mem_toList.mp hc)
    exact ⟨_, rfl⟩

theorem exists_lt_of_mem_owned_livePolicy {p : Policy} {k n : Nat}
    (hn : n ∈ (livePolicy p k).owned) :
    ∃ i, i < (mapsOf p).length ∧ n = k + i := by
  obtain ⟨page, header, defaults, frame⟩ := p
  cases frame with
  | none =>
      obtain rfl := List.mem_singleton.mp hn
      exact ⟨0, Nat.one_pos, rfl⟩
  | some frame =>
      rcases List.mem_cons.mp hn with rfl | hn
      · exact ⟨0, Nat.two_pos, rfl⟩
      · obtain rfl := List.mem_singleton.mp hn
        exact ⟨1, Nat.one_lt_two, rfl⟩

theorem policyAt?_keepPolicy (s : State) (p : Policy) :
    (s.keepPolicy p).1.policyAt? (s.keepPolicy p).2 =
      some (livePolicy p s.objects.length) := by
  rw [keepPolicy_eq, policyAt?_eq_some_iff, append_getElem?_length_add,
    List.getElem?_concat_length]

/-- A policy that is kept is a new object, and so are its maps. -/
theorem evolves_keepPolicy (hs : s.Separate) (p : Policy) :
    Evolves s (s.keepPolicy p).1 ∧
      (s.keepPolicy p).1.IsFree (s.keepPolicy p).2 := by
  have hevolves : Evolves s (s.keepPolicy p).1 := by
    rw [keepPolicy_eq]
    apply evolves_append hs
    · intro c hc
      rcases List.mem_append.mp hc with hc | hc
      · obtain ⟨m, rfl⟩ := exists_of_mem_mapsOf hc
        exact ⟨nofun, nofun⟩
      · obtain rfl := List.mem_singleton.mp hc
        exact ⟨nofun, nofun⟩
    · intro q hq n hn
      rcases List.mem_append.mp hq with hq | hq
      · obtain ⟨m, heq⟩ := exists_of_mem_mapsOf hq
        exact nomatch heq
      · obtain rfl := Content.policy.inj (List.mem_singleton.mp hq)
        obtain ⟨i, hi, rfl⟩ := exists_lt_of_mem_owned_livePolicy hn
        obtain ⟨m, hm⟩ := exists_of_mem_mapsOf (List.getElem_mem hi)
        refine ⟨Nat.le_add_right _ i, m, ?_⟩
        rw [append_getElem?_length_add, List.getElem?_append_left hi,
          List.getElem?_eq_getElem hi, hm]
  exact ⟨hevolves,
    isFree_of_policyAt? hevolves.separate (s.policyAt?_keepPolicy p)⟩

/-- A policy is kept as it was built. -/
theorem snapshot_keepPolicy (s : State) (p : Policy) :
    (s.keepPolicy p).1.snapshot (livePolicy p s.objects.length) = p := by
  have hmap (i : Nat) (m : PolicyMap)
      (hi : (mapsOf p)[i]? = some (.policyMap m)) :
      (s.keepPolicy p).1.mapAt (s.objects.length + i) = m := by
    rw [keepPolicy_eq, State.mapAt, append_getElem?_length_add,
      List.getElem?_append_left (List.getElem?_eq_some_iff.mp hi).1, hi]
  have hheader := hmap 0 _ rfl
  rw [Nat.add_zero] at hheader
  obtain ⟨page, header, defaults, frame⟩ := p
  cases frame with
  | none => simp [snapshot, livePolicy, hheader]
  | some frame => simp [snapshot, livePolicy, hheader, hmap 1 _ rfl]

theorem evolves_build (hs : s.Separate) {name : Option String}
    {origin header defaults frame : Value} {r : State × Shown}
    (hok : s.build name origin header defaults frame = .ok r) :
    Evolves s r.1 := by
  simp only [build, bind_eq_ok_iff] at hok
  obtain ⟨p, -, hr⟩ := hok
  obtain rfl := Except.ok.inj hr
  obtain ⟨hkeep, hfree⟩ := evolves_keepPolicy hs p
  exact hkeep.trans (evolves_present hkeep.separate hfree name)

/-- Looking at a policy gives copies of its maps. -/
theorem evolves_property (hs : s.Separate) (name : Option String)
    (number : Nat) (p : LivePolicy) (wanted : Property) :
    Evolves s (s.property name number p wanted).1 := by
  cases wanted with
  | header =>
      exact evolves_add_present hs (.policyMap (s.mapAt p.header))
        ⟨nofun, nofun⟩ nofun name
  | defaults => exact evolves_bind hs name nofun
  | frame =>
      obtain ⟨page, header, defaults, frame⟩ := p
      cases frame with
      | none => exact evolves_bind hs name nofun
      | some frame =>
          have hcopy := evolves_add hs (.policyMap (s.mapAt frame.2))
            ⟨nofun, nofun⟩ nofun
          apply hcopy.trans
          apply evolves_add_present hcopy.separate
            (.frameContext frame.1 s.objects.length) ⟨nofun, ?_⟩ nofun name
          intro n hn
          obtain rfl := List.mem_singleton.mp hn
          exact ⟨isFree_add hs (.policyMap (s.mapAt frame.2)) nofun,
            isMap_add s (s.mapAt frame.2)⟩
  | origin => exact evolves_bind hs name nofun
  | isFrame => exact evolves_bind hs name nofun

/-! ## Policy maps and mappings -/

/-- An entry is set in a map that no policy owns. -/
theorem evolves_setGrant (hs : s.Separate) {n : Nat} (hfree : s.IsFree n)
    (hmap : s.IsMap n) {key : String} {value : Value}
    (hok : s.setGrant n key value = .ok t) : Evolves s t := by
  simp only [setGrant, bind_eq_ok_iff] at hok
  obtain ⟨a, -, ht⟩ := hok
  obtain rfl := Except.ok.inj ht
  have hold : s.policyAt? n = none := by
    obtain ⟨m, hm⟩ := hmap
    rw [State.policyAt?, hm]
  let m := s.mapAt n
  exact evolves_set hs (.policyMap { m with grants := m.grants.insert key a })
    hfree hold nofun (fun _ => ⟨_, rfl⟩) ⟨nofun, nofun⟩

theorem evolves_setEntry (hs : s.Separate) {of key : String} {value : Value}
    (hvalue : value.Literal) {r : State × Shown}
    (hok : s.setEntry of key value = .ok r) : Evolves s r.1 := by
  simp only [setEntry, bind_eq_ok_iff, lookup_eq_ok_iff] at hok
  obtain ⟨ref, href, v, hv, hok⟩ := hok
  have hopen := isOpen_of_resolve hs hvalue hv
  split at hok
  next number =>
    have hfree := hs.named number ⟨of, href⟩
    split at hok
    next m hm =>
      obtain rfl := Except.ok.inj hok
      have hold : s.policyAt? number = none := by
        rw [State.policyAt?, hm]
      apply evolves_set hs (.mapping (m.insert key v)) hfree hold nofun
      · rintro ⟨m', hm'⟩
        rw [hm] at hm'
        exact nomatch hm'
      · refine ⟨?_, nofun⟩
        intro n hn
        obtain ⟨entry, hentry, hn⟩ := List.mem_flatMap.mp hn
        rcases OrderedMap.mem_entries_insert hentry with heq | hentry
        · subst heq
          exact hopen n hn
        · exact (hs.admitted number _ hm).stored n
            (List.mem_flatMap.mpr ⟨entry, hentry, hn⟩)
    next m hm =>
      obtain ⟨t, ht, hr⟩ := bind_eq_ok_iff.mp hok
      obtain rfl := Except.ok.inj hr
      exact evolves_setGrant hs hfree ⟨m, hm⟩ ht
    next origin allow hm =>
      obtain ⟨t, ht, hr⟩ := bind_eq_ok_iff.mp hok
      obtain rfl := Except.ok.inj hr
      obtain ⟨hallow, hmap⟩ :=
        (hs.admitted number _ hm).shared allow (List.mem_singleton.mpr rfl)
      exact evolves_setGrant hs hallow hmap ht
    next => exact nomatch hok
  next => exact nomatch hok

theorem evolves_parse (hs : s.Separate) {name : Option String} {value : Value}
    {read : String → Except Failure PolicyMap} {r : State × Shown}
    (hok : s.parse name value read = .ok r) : Evolves s r.1 := by
  simp only [parse, bind_eq_ok_iff] at hok
  obtain ⟨v, -, hok⟩ := hok
  split at hok
  next text =>
    obtain ⟨m, -, hr⟩ := bind_eq_ok_iff.mp hok
    obtain rfl := Except.ok.inj hr
    exact evolves_add_present hs (.policyMap m) ⟨nofun, nofun⟩ nofun name
  next =>
    split at hok
    next ref href =>
      obtain rfl := Except.ok.inj hok
      unfold reference? at href
      split at href
      next other => exact evolves_bind hs name (isFree_of_names hs href)
      next => exact nomatch href
    next =>
      obtain rfl := Except.ok.inj hok
      exact Evolves.refl hs

theorem evolves_normalize (hs : s.Separate) {name : Option String}
    {of : String} {page src : Value} {r : State × Shown}
    (hok : s.normalize name of page src = .ok r) : Evolves s r.1 := by
  simp only [normalize, bind_eq_ok_iff, lookup_eq_ok_iff] at hok
  obtain ⟨ref, href, page', -, src', -, hok⟩ := hok
  split at hok
  next number =>
    split at hok
    next m hm =>
      obtain ⟨resolved, -, hok⟩ := bind_eq_ok_iff.mp hok
      split at hok
      next =>
        obtain rfl := Except.ok.inj hok
        exact evolves_bind hs name (isFree_of_names hs href)
      next =>
        obtain rfl := Except.ok.inj hok
        exact evolves_add_present hs (.policyMap resolved) ⟨nofun, nofun⟩ nofun
          name
    next => exact nomatch hok
  next => exact nomatch hok

theorem evolves_letMapping (hs : s.Separate) {name : Option String}
    {value : Value} (hvalue : value.Literal) {r : State × Shown}
    (hok : s.perform (.letMapping name value) = .ok r) : Evolves s r.1 := by
  simp only [perform, bind_eq_ok_iff] at hok
  obtain ⟨v, hv, hr⟩ := hok
  obtain rfl := Except.ok.inj hr
  have hopen := isOpen_of_resolve hs hvalue hv
  refine evolves_add_present hs (.mapping (.ofList _)) ⟨?_, nofun⟩ nofun name
  intro n hn
  obtain ⟨entry, hentry, hn⟩ := List.mem_flatMap.mp hn
  have hmem := OrderedMap.mem_of_mem_entries_ofList hentry
  split at hmem
  next entries =>
    obtain ⟨⟨key, w⟩, hfield, rfl⟩ := List.mem_map.mp hmem
    exact hopen n
      (Value.mem_objectsOfEntries_iff.mpr ⟨(key, w), hfield, Or.inr hn⟩)
  next => exact nomatch hmem

/-! ## Steps -/

/-- No step changes a policy. -/
theorem evolves_perform (hs : s.Separate) {step : Step}
    (hstep : step.Literal) {r : State × Shown}
    (hok : s.perform step = .ok r) : Evolves s r.1 := by
  cases step with
  | letMapping name value =>
      exact evolves_letMapping hs (hstep value List.mem_cons_self) hok
  | parseHeader name value => exact evolves_parse hs hok
  | parseAllow name value => exact evolves_parse hs hok
  | make name model fields =>
      simp only [perform, bind_eq_ok_iff] at hok
      obtain ⟨v, hv, hok⟩ := hok
      exact evolves_make hs
        (isOpen_of_resolve hs (hstep fields List.mem_cons_self) hv) hok
  | normalize name of page src => exact evolves_normalize hs hok
  | policy name origin header defaults frame =>
      simp only [perform, bind_eq_ok_iff] at hok
      obtain ⟨_, _, _, _, _, _, _, _, hok⟩ := hok
      exact evolves_build hs hok
  | inherit name of frame =>
      simp only [perform, bind_eq_ok_iff] at hok
      obtain ⟨_, _, _, _, hok⟩ := hok
      exact evolves_build hs hok
  | get name of wanted =>
      simp only [perform, bind_eq_ok_iff] at hok
      obtain ⟨⟨number, p⟩, -, hr⟩ := hok
      obtain rfl := Except.ok.inj hr
      exact evolves_property hs name number p wanted
  | set of key value =>
      exact evolves_setEntry hs (hstep value List.mem_cons_self) hok
  | same | contains | evaluate | allows | allowedFeatures =>
      simp only [perform, bind_eq_ok_iff] at hok
      obtain ⟨_, _, _, _, hr⟩ := hok
      obtain rfl := Except.ok.inj hr
      exact Evolves.refl hs
  | look | features =>
      simp only [perform, bind_eq_ok_iff] at hok
      obtain ⟨_, _, hr⟩ := hok
      obtain rfl := Except.ok.inj hr
      exact Evolves.refl hs
  | assign of field =>
      simp only [perform, bind_eq_ok_iff] at hok
      obtain ⟨_, _, hr⟩ := hok
      exact nomatch hr

theorem evolves_step (hs : s.Separate) {step : Step} (hstep : step.Literal) :
    Evolves s (s.step step).1 := by
  unfold State.step
  split
  next next' shown hok => exact evolves_perform hs hstep hok
  next => exact Evolves.refl hs

/-! ## Runs -/

/-- The state after steps, one after the other. -/
def after (s : State) (steps : List Step) : State :=
  steps.foldl (fun s step => (s.step step).1) s

/-- Further steps are answered by the state after the first ones. -/
theorem run_append (s : State) (steps more : List Step) :
    s.run (steps ++ more) = s.run steps ++ (s.after steps).run more := by
  induction steps generalizing s with
  | nil => rfl
  | cons step rest ih =>
      simp only [List.cons_append, run, ih]
      rfl

/-- However a state goes on, it stays separate and its policies stay as they
are. -/
theorem evolves_after (hs : s.Separate) {steps : List Step}
    (hsteps : ∀ step ∈ steps, step.Literal) : Evolves s (s.after steps) := by
  induction steps generalizing s with
  | nil => exact Evolves.refl hs
  | cons step rest ih =>
      obtain ⟨hstep, hrest⟩ := List.forall_mem_cons.mp hsteps
      have hfirst := evolves_step hs hstep
      exact hfirst.trans (ih hfirst.separate hrest)

end State

end FeatureGrant.Session
