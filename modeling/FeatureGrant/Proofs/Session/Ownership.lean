import FeatureGrant.Proofs.OrderedMap
import FeatureGrant.Proofs.Session.Values

/-!
# Ownership

A policy owns the map of its header and that of its frame.  In a separate state
no name and no other object leads to an owned map, so that whatever is changed
in place is not part of any policy.  The ways in which a state changes are
few: objects are added, one that is not owned is changed, something is named.
Each of them keeps a separate state separate and the policies what they are.
-/

namespace FeatureGrant.Session

/-! ## What objects refer to -/

/-- The maps that belong to a policy. -/
def LivePolicy.owned (p : LivePolicy) : List Nat :=
  p.header :: (p.frame.map Prod.snd).toList

theorem LivePolicy.mem_owned_of_frame {p : LivePolicy} {frame : String × Nat}
    (hframe : p.frame = some frame) : frame.2 ∈ p.owned := by
  rw [owned, hframe]
  exact List.mem_cons_of_mem _ List.mem_cons_self

/-- The maps that a described frame shares. -/
def sharedBy (info : FrameInfo Nat) : List Nat :=
  match info.allow with
  | .text _ => []
  | .map number => [number]

/-- The maps that an object shares with others. -/
def Content.shared : Content → List Nat
  | .frameInfo info => sharedBy info
  | .frameContext _ allow => [allow]
  | .scenario c => (c.frame.map sharedBy).getD []
  | _ => []

/-- The objects in the entries of a mapping. -/
def Content.stored : Content → List Nat
  | .mapping m => m.entries.flatMap (·.2.objects)
  | _ => []

namespace State

/-- Whether a number is that of a policy map. -/
def IsMap (s : State) (n : Nat) : Prop :=
  ∃ m, s.objects[n]? = some (.policyMap m)

/-- Whether a number is that of a policy map of normalized form. -/
def IsNormalized (s : State) (n : Nat) : Prop :=
  ∃ grants, s.objects[n]? = some (.policyMap { form := .normalized, grants })

/-- Whether some policy owns the map with a number. -/
def Owns (s : State) (n : Nat) : Prop :=
  ∃ k p, s.policyAt? k = some p ∧ n ∈ p.owned

/-- Whether a number is that of an object that no policy owns. -/
def IsFree (s : State) (n : Nat) : Prop :=
  n < s.objects.length ∧ ¬ s.Owns n

/-- Whether an object refers to objects only that no policy owns. -/
structure Admits (s : State) (c : Content) : Prop where
  stored : ∀ n ∈ c.stored, s.IsFree n
  shared : ∀ n ∈ c.shared, s.IsFree n ∧ s.IsMap n

/-- No name and no object but the policy itself leads to a map that a policy
owns, which is of normalized form. -/
structure Separate (s : State) : Prop where
  owned : ∀ n, s.Owns n → s.IsNormalized n
  named : ∀ n, s.Names n → s.IsFree n
  admitted : ∀ (k : Nat) (c : Content), s.objects[k]? = some c → s.Admits c

/-- A state that another one turned into is separate, and every policy is what
it was before. -/
structure Evolves (s t : State) : Prop where
  separate : t.Separate
  policyAt? : ∀ k p, s.policyAt? k = some p → t.policyAt? k = some p
  mapAt : ∀ n, s.Owns n → t.mapAt n = s.mapAt n
  isMap : ∀ n, s.IsMap n → t.IsMap n
  isFree : ∀ n, s.IsFree n → t.IsFree n

variable {s t u : State}

theorem policyAt?_eq_some_iff {k : Nat} {p : LivePolicy} :
    s.policyAt? k = some p ↔ s.objects[k]? = some (.policy p) := by
  unfold State.policyAt?
  constructor
  · intro h
    split at h
    next q hq => rw [hq, Option.some.inj h]
    next => exact nomatch h
  · intro h
    rw [h]

theorem Admits.mono (hisFree : ∀ n, s.IsFree n → t.IsFree n)
    (hisMap : ∀ n, s.IsMap n → t.IsMap n) {c : Content} (hc : s.Admits c) :
    t.Admits c where
  stored := fun n hn => hisFree n (hc.stored n hn)
  shared := fun n hn =>
    ⟨hisFree n (hc.shared n hn).1, hisMap n (hc.shared n hn).2⟩

theorem IsNormalized.isMap {n : Nat} (hmap : s.IsNormalized n) : s.IsMap n := by
  obtain ⟨grants, hgrants⟩ := hmap
  exact ⟨_, hgrants⟩

theorem IsMap.lt_length {n : Nat} (hmap : s.IsMap n) : n < s.objects.length := by
  obtain ⟨m, hm⟩ := hmap
  exact (List.getElem?_eq_some_iff.mp hm).1

namespace Evolves

theorem refl (hs : s.Separate) : Evolves s s where
  separate := hs
  policyAt? := fun _ _ h => h
  mapAt := fun _ _ => rfl
  isMap := fun _ h => h
  isFree := fun _ h => h

theorem owns (he : Evolves s t) {n : Nat} (howns : s.Owns n) : t.Owns n := by
  obtain ⟨k, p, hp, hn⟩ := howns
  exact ⟨k, p, he.policyAt? k p hp, hn⟩

theorem trans (hst : Evolves s t) (htu : Evolves t u) : Evolves s u where
  separate := htu.separate
  policyAt? := fun k p h => htu.policyAt? k p (hst.policyAt? k p h)
  mapAt := fun n h => (htu.mapAt n (hst.owns h)).trans (hst.mapAt n h)
  isMap := fun n h => htu.isMap n (hst.isMap n h)
  isFree := fun n h => htu.isFree n (hst.isFree n h)

/-- A policy goes on to be the same. -/
theorem snapshot_eq (he : Evolves s t) {k : Nat} {p : LivePolicy}
    (hp : s.policyAt? k = some p) : t.snapshot p = s.snapshot p := by
  have hheader : t.mapAt p.header = s.mapAt p.header :=
    he.mapAt p.header ⟨k, p, hp, List.mem_cons_self⟩
  unfold snapshot
  rw [hheader]
  cases hframe : p.frame with
  | none => rfl
  | some frame =>
      have hallow : t.mapAt frame.2 = s.mapAt frame.2 :=
        he.mapAt frame.2 ⟨k, p, hp, LivePolicy.mem_owned_of_frame hframe⟩
      simp only [Option.map_some, hallow]

end Evolves

theorem separate_empty : empty.Separate where
  owned := by
    rintro n ⟨k, p, hp, -⟩
    exact nomatch hp
  named := by
    rintro n ⟨name, hname⟩
    rw [empty, OrderedMap.get?_empty] at hname
    exact nomatch hname
  admitted := fun k c h => nomatch h

/-! ## Adding objects -/

/-- Adds objects one after the other. -/
def append (s : State) (contents : List Content) : State :=
  { s with objects := s.objects ++ contents }

theorem append_getElem? {contents : List Content} {k : Nat} {c : Content}
    (hk : s.objects[k]? = some c) :
    (s.append contents).objects[k]? = some c := by
  rw [append, List.getElem?_append_left (List.getElem?_eq_some_iff.mp hk).1, hk]

theorem mem_or_of_append_getElem? {contents : List Content} {k : Nat}
    {c : Content} (hk : (s.append contents).objects[k]? = some c) :
    s.objects[k]? = some c ∨ c ∈ contents := by
  rw [append] at hk
  by_cases hlt : k < s.objects.length
  · rw [List.getElem?_append_left hlt] at hk
    exact Or.inl hk
  · rw [List.getElem?_append_right (Nat.le_of_not_lt hlt)] at hk
    exact Or.inr (List.mem_of_getElem? hk)

theorem isMap_append {n : Nat} (hmap : s.IsMap n) (contents : List Content) :
    (s.append contents).IsMap n := by
  obtain ⟨m, hm⟩ := hmap
  exact ⟨m, append_getElem? hm⟩

theorem isNormalized_append {n : Nat} (hmap : s.IsNormalized n)
    (contents : List Content) : (s.append contents).IsNormalized n := by
  obtain ⟨grants, hgrants⟩ := hmap
  exact ⟨grants, append_getElem? hgrants⟩

theorem mapAt_append {n : Nat} (hmap : s.IsMap n) (contents : List Content) :
    (s.append contents).mapAt n = s.mapAt n := by
  obtain ⟨m, hm⟩ := hmap
  rw [State.mapAt, State.mapAt, append_getElem? hm, hm]

theorem owns_of_owns_append {contents : List Content} {n : Nat}
    (howns : (s.append contents).Owns n) :
    s.Owns n ∨ ∃ p, Content.policy p ∈ contents ∧ n ∈ p.owned := by
  obtain ⟨k, p, hp, hn⟩ := howns
  rw [policyAt?_eq_some_iff] at hp
  rcases mem_or_of_append_getElem? hp with hp | hp
  · exact Or.inl ⟨k, p, policyAt?_eq_some_iff.mpr hp, hn⟩
  · exact Or.inr ⟨p, hp, hn⟩

/-- New objects refer to objects that are free; a new policy owns new maps. -/
theorem evolves_append (hs : s.Separate) {contents : List Content}
    (hadmits : ∀ c ∈ contents, s.Admits c)
    (hpolicy : ∀ p, Content.policy p ∈ contents → ∀ n ∈ p.owned,
      s.objects.length ≤ n ∧ (s.append contents).IsNormalized n) :
    Evolves s (s.append contents) := by
  have hfree (n : Nat) (hn : s.IsFree n) : (s.append contents).IsFree n := by
    obtain ⟨hlt, hnot⟩ := hn
    constructor
    · rw [append, List.length_append]
      exact Nat.lt_add_right _ hlt
    · intro howns
      rcases owns_of_owns_append howns with howns | ⟨p, hp, hmem⟩
      · exact hnot howns
      · exact absurd (hpolicy p hp n hmem).1 (Nat.not_le_of_lt hlt)
  refine
    { separate := ⟨?_, ?_, ?_⟩
      policyAt? := ?_
      mapAt := fun n h => mapAt_append (hs.owned n h).isMap contents
      isMap := fun n h => isMap_append h contents
      isFree := hfree }
  · intro n howns
    rcases owns_of_owns_append howns with howns | ⟨p, hp, hmem⟩
    · exact isNormalized_append (hs.owned n howns) contents
    · exact (hpolicy p hp n hmem).2
  · intro n hname
    exact hfree n (hs.named n hname)
  · intro k c hk
    have hc : s.Admits c := by
      rcases mem_or_of_append_getElem? hk with hk | hk
      · exact hs.admitted k c hk
      · exact hadmits c hk
    exact hc.mono hfree fun n h => isMap_append h contents
  · intro k p hp
    rw [policyAt?_eq_some_iff] at hp ⊢
    exact append_getElem? hp

theorem evolves_add (hs : s.Separate) (c : Content) (hc : s.Admits c)
    (hpolicy : ∀ p, c ≠ .policy p) : Evolves s (s.add c).1 := by
  apply evolves_append hs
  · intro d hd
    rw [List.mem_singleton.mp hd]
    exact hc
  · intro p hp
    exact absurd (List.mem_singleton.mp hp).symm (hpolicy p)

theorem getElem?_add (s : State) (c : Content) :
    (s.add c).1.objects[(s.add c).2]? = some c :=
  List.getElem?_concat_length

/-- An object that was added is free. -/
theorem isFree_add (hs : s.Separate) (c : Content)
    (hpolicy : ∀ p, c ≠ .policy p) : (s.add c).1.IsFree (s.add c).2 := by
  constructor
  · simp [add]
  · intro howns
    have howns' : (s.append [c]).Owns s.objects.length := howns
    rcases owns_of_owns_append howns' with howns | ⟨p, hp, -⟩
    · exact Nat.lt_irrefl _ (hs.owned _ howns).isMap.lt_length
    · exact hpolicy p (List.mem_singleton.mp hp).symm

theorem isMap_add (s : State) (m : PolicyMap) :
    (s.add (.policyMap m)).1.IsMap (s.add (.policyMap m)).2 :=
  ⟨m, s.getElem?_add (.policyMap m)⟩

/-! ## Changing an object in place -/

theorem getElem?_set_of_ne {k n : Nat} (hne : n ≠ k) (c : Content) :
    (s.set k c).objects[n]? = s.objects[n]? := by
  rw [set, List.getElem?_set_ne (Ne.symm hne)]

theorem getElem?_set_self {k : Nat} (hk : k < s.objects.length) (c : Content) :
    (s.set k c).objects[k]? = some c := by
  rw [set, List.getElem?_set_self hk]

/-- A free object that is no policy may be changed to one of its kind. -/
theorem evolves_set (hs : s.Separate) {k : Nat} (c : Content)
    (hfree : s.IsFree k) (hold : s.policyAt? k = none)
    (hnew : ∀ p, c ≠ .policy p)
    (hkind : s.IsMap k → ∃ m, c = .policyMap m) (hc : s.Admits c) :
    Evolves s (s.set k c) := by
  have hpolicies (j : Nat) (p : LivePolicy) :
      (s.set k c).policyAt? j = some p ↔ s.policyAt? j = some p := by
    rw [policyAt?_eq_some_iff, policyAt?_eq_some_iff]
    by_cases hj : j = k
    · subst hj
      rw [getElem?_set_self hfree.1, ← policyAt?_eq_some_iff, hold]
      exact ⟨fun h => absurd (Option.some.inj h) (hnew p), nofun⟩
    · rw [getElem?_set_of_ne hj]
  have howns (n : Nat) : (s.set k c).Owns n ↔ s.Owns n := by
    unfold Owns
    simp only [hpolicies]
  have hisMap (n : Nat) (hn : s.IsMap n) : (s.set k c).IsMap n := by
    by_cases hk : n = k
    · subst hk
      obtain ⟨m, rfl⟩ := hkind hn
      exact ⟨m, getElem?_set_self hfree.1 _⟩
    · obtain ⟨m, hm⟩ := hn
      exact ⟨m, (getElem?_set_of_ne hk c).trans hm⟩
  have hother (n : Nat) (hn : s.Owns n) : n ≠ k := by
    rintro rfl
    exact hfree.2 hn
  have hisFree (n : Nat) (hn : s.IsFree n) : (s.set k c).IsFree n := by
    refine ⟨?_, fun h => hn.2 ((howns n).mp h)⟩
    rw [set, List.length_set]
    exact hn.1
  refine
    { separate := ⟨?_, ?_, ?_⟩
      policyAt? := fun j p h => (hpolicies j p).mpr h
      mapAt := ?_
      isMap := hisMap
      isFree := hisFree }
  · intro n hn
    obtain ⟨grants, hgrants⟩ := hs.owned n ((howns n).mp hn)
    have hne := hother n ((howns n).mp hn)
    exact ⟨grants, (getElem?_set_of_ne hne c).trans hgrants⟩
  · intro n hname
    exact hisFree n (hs.named n hname)
  · intro j d hj
    have hd : s.Admits d := by
      by_cases hjk : j = k
      · subst hjk
        rw [getElem?_set_self hfree.1] at hj
        rw [← Option.some.inj hj]
        exact hc
      · rw [getElem?_set_of_ne hjk] at hj
        exact hs.admitted j d hj
    exact hd.mono hisFree hisMap
  · intro n hn
    rw [State.mapAt, State.mapAt, getElem?_set_of_ne (hother n hn)]

/-! ## Naming -/

theorem names_of_names_bind {name : Option String} {ref : Ref} {n : Nat}
    (hnames : (s.bind name ref).Names n) : s.Names n ∨ ref = .object n := by
  cases name with
  | none => exact Or.inl hnames
  | some name =>
      obtain ⟨other, hother⟩ := hnames
      rw [bind, OrderedMap.get?_insert] at hother
      split at hother
      · exact Or.inr (Option.some.inj hother)
      · exact Or.inl ⟨other, hother⟩

/-- A free object may be named. -/
theorem evolves_bind (hs : s.Separate) (name : Option String) {ref : Ref}
    (href : ∀ n, ref = .object n → s.IsFree n) :
    Evolves s (s.bind name ref) := by
  have hnamed (n : Nat) (hnames : (s.bind name ref).Names n) : s.IsFree n := by
    rcases names_of_names_bind hnames with hnames | hobject
    · exact hs.named n hnames
    · exact href n hobject
  cases name with
  | none => exact Evolves.refl hs
  | some name =>
      have hisFree (n : Nat) (hn : s.IsFree n) :
          (s.bind (some name) ref).IsFree n := hn
      have hisMap (n : Nat) (hn : s.IsMap n) :
          (s.bind (some name) ref).IsMap n := hn
      exact
        { separate := ⟨hs.owned, hnamed, fun k c hk =>
            (hs.admitted k c hk).mono hisFree hisMap⟩
          policyAt? := fun _ _ h => h
          mapAt := fun _ _ => rfl
          isMap := hisMap
          isFree := hisFree }

end State

end FeatureGrant.Session
