import FeatureGrant.Proofs.OrderedMap
import FeatureGrant.Resolution
import Mathlib.Data.List.Sort

/-!
# What keywords resolve to

Resolution keeps wildcard and denying allowlists.  A set of origins stays a set
of origins, and its new members are the origins that were listed, the page for
`'self'`, and the frame for `'src'` or for an empty set.
-/

namespace FeatureGrant

/-- Sets with the same members are equal. -/
theorem SortedSet.ext_mem {a b : SortedSet} (hmem : ∀ x : String, x ∈ a ↔ x ∈ b) :
    a = b :=
  SortedSet.ext (a.ascending.eq_of_mem_iff b.ascending hmem)

theorem SortedSet.isEmpty_iff {s : SortedSet} :
    s.isEmpty = true ↔ ∀ x : String, ¬ x ∈ s := by
  rw [SortedSet.isEmpty, List.isEmpty_iff, List.eq_nil_iff_forall_not_mem]
  rfl

/-- A replaced text is gone, and its replacement is there. -/
theorem SortedSet.mem_replace {s : SortedSet} {old x : String}
    {new : Option String} :
    x ∈ s.replace old new ↔ (x ∈ s ∧ x ≠ old) ∨ (old ∈ s ∧ new = some x) := by
  unfold replace
  by_cases hold : old ∈ s
  · rw [if_pos hold]
    cases new with
    | none => simp
    | some y =>
        rw [mem_insert, mem_erase]
        constructor
        · rintro (rfl | h)
          · exact Or.inr ⟨hold, rfl⟩
          · exact Or.inl h
        · rintro (h | ⟨-, h⟩)
          · exact Or.inr h
          · exact Or.inl (Option.some.inj h).symm
  · rw [if_neg hold]
    constructor
    · intro hx
      exact Or.inl ⟨hx, fun heq => hold (heq ▸ hx)⟩
    · rintro (h | h)
      · exact h.1
      · exact absurd h.1 hold

namespace Allowlist

variable {page : String} {src : Option String}

@[simp] theorem resolve_wildcard :
    wildcard.resolve page src = wildcard := rfl

@[simp] theorem resolve_deny : deny.resolve page src = deny := rfl

theorem resolve_origins (set : SortedSet) :
    (origins set).resolve page src =
      origins ((origins set).resolve page src).members := by
  unfold resolve
  dsimp only
  split
  · rfl
  · split
    · rfl
    · rfl

theorem mem_replace_keywords (hpage : page ≠ Keyword.src.text)
    {set : SortedSet} {frame : Option String} {x : String} :
    x ∈ (set.replace Keyword.self.text (some page)).replace
        Keyword.src.text frame ↔
      (x ∈ set ∧ x ≠ Keyword.self.text ∧ x ≠ Keyword.src.text) ∨
        (Keyword.self.text ∈ set ∧ x = page) ∨
        (Keyword.src.text ∈ set ∧ frame = some x) := by
  have hself : Keyword.src.text ≠ Keyword.self.text := by decide
  have hsrc : Keyword.src.text ∈ set.replace Keyword.self.text (some page) ↔
      Keyword.src.text ∈ set := by
    rw [SortedSet.mem_replace]
    constructor
    · rintro (h | ⟨-, h⟩)
      · exact h.1
      · exact absurd (Option.some.inj h) hpage
    · intro h
      exact Or.inl ⟨h, hself⟩
  rw [SortedSet.mem_replace, hsrc, SortedSet.mem_replace]
  constructor
  · rintro (⟨⟨hx, hne⟩ | ⟨hmem, hx⟩, hsrc⟩ | h)
    · exact Or.inl ⟨hx, hne, hsrc⟩
    · exact Or.inr (Or.inl ⟨hmem, (Option.some.inj hx).symm⟩)
    · exact Or.inr (Or.inr h)
  · rintro (⟨hx, hne, hsrc⟩ | ⟨hmem, rfl⟩ | h)
    · exact Or.inl ⟨Or.inl ⟨hx, hne⟩, hsrc⟩
    · exact Or.inl ⟨Or.inr ⟨hmem, rfl⟩, hpage⟩
    · exact Or.inr h

/-- The members of a resolved set of origins. -/
theorem mem_resolve_origins (hpage : page ≠ Keyword.src.text)
    {set : SortedSet} {x : String} :
    x ∈ ((origins set).resolve page src).members ↔
      ¬ Keyword.none.text ∈ set ∧
        ((x ∈ set ∧ x ≠ Keyword.self.text ∧ x ≠ Keyword.src.text) ∨
          (Keyword.self.text ∈ set ∧ x = page) ∨
          (namedFrame src = some x ∧
            (Keyword.src.text ∈ set ∨ set.isEmpty = true))) := by
  unfold resolve
  dsimp only
  split
  next frame hempty hframe =>
    have hnot := SortedSet.isEmpty_iff.mp hempty
    simp [members, ofList, hnot, hempty, hframe, eq_comm]
  next frame hnone =>
    split
    next hkeyword => simp [members, hkeyword]
    next hkeyword =>
      have hempty : set.isEmpty = true → namedFrame src ≠ some x :=
        fun h hsrc => hnone x h hsrc
      rw [members, mem_replace_keywords hpage]
      constructor
      · rintro (h | h | ⟨hsrc, hframe⟩)
        · exact ⟨hkeyword, Or.inl h⟩
        · exact ⟨hkeyword, Or.inr (Or.inl h)⟩
        · exact ⟨hkeyword, Or.inr (Or.inr ⟨hframe, Or.inl hsrc⟩)⟩
      · rintro ⟨-, h | h | ⟨hframe, hsrc | hset⟩⟩
        · exact Or.inl h
        · exact Or.inr (Or.inl h)
        · exact Or.inr (Or.inr ⟨hsrc, hframe⟩)
        · exact absurd hframe (hempty hset)

/-! ## Members one by one -/

/-- What a member of a set stands for. -/
def assign (page frame text : String) : String :=
  if text = Keyword.self.text then page
  else if text = Keyword.src.text then frame
  else text

theorem exists_assign_eq_iff {page frame x : String} {found : List String} :
    (∃ text ∈ found, assign page frame text = x) ↔
      (x ∈ found ∧ x ≠ Keyword.self.text ∧ x ≠ Keyword.src.text) ∨
        (Keyword.self.text ∈ found ∧ x = page) ∨
        (Keyword.src.text ∈ found ∧ x = frame) := by
  have hne : Keyword.src.text ≠ Keyword.self.text := by decide
  constructor
  · rintro ⟨text, htext, rfl⟩
    unfold assign
    by_cases hself : text = Keyword.self.text
    · rw [if_pos hself]
      exact Or.inr (Or.inl ⟨hself ▸ htext, rfl⟩)
    · rw [if_neg hself]
      by_cases hsrc : text = Keyword.src.text
      · rw [if_pos hsrc]
        exact Or.inr (Or.inr ⟨hsrc ▸ htext, rfl⟩)
      · rw [if_neg hsrc]
        exact Or.inl ⟨htext, hself, hsrc⟩
  · rintro (⟨hx, hself, hsrc⟩ | ⟨hmem, rfl⟩ | ⟨hmem, rfl⟩)
    · exact ⟨x, hx, by rw [assign, if_neg hself, if_neg hsrc]⟩
    · exact ⟨_, hmem, by rw [assign, if_pos rfl]⟩
    · exact ⟨_, hmem, by rw [assign, if_neg hne, if_pos rfl]⟩

/-- A list resolves to what its members stand for, and an empty one to the
frame. -/
theorem mem_resolve_ofList (hpage : page ≠ Keyword.src.text)
    {frame x : String} (hframe : frame ≠ "") {found : List String}
    (hnone : Keyword.none.text ∉ found) :
    x ∈ ((ofList found).resolve page (some frame)).members ↔
      (found = [] ∧ x = frame) ∨
        ∃ text ∈ found, assign page frame text = x := by
  have hnamed : namedFrame (some frame) = some x ↔ x = frame := by
    simp [namedFrame, Option.filter, hframe, eq_comm]
  have hempty : (SortedSet.ofList found).isEmpty = true ↔ found = [] := by
    simp [SortedSet.isEmpty_iff, List.eq_nil_iff_forall_not_mem]
  rw [ofList, mem_resolve_origins hpage, exists_assign_eq_iff, hnamed, hempty]
  simp only [SortedSet.mem_ofList]
  constructor
  · rintro ⟨-, h | h | ⟨hx, hsrc | hnil⟩⟩
    · exact Or.inr (Or.inl h)
    · exact Or.inr (Or.inr (Or.inl h))
    · exact Or.inr (Or.inr (Or.inr ⟨hsrc, hx⟩))
    · exact Or.inl ⟨hnil, hx⟩
  · rintro (⟨hnil, hx⟩ | h | h | ⟨hsrc, hx⟩)
    · exact ⟨hnone, Or.inr (Or.inr ⟨hx, Or.inr hnil⟩)⟩
    · exact ⟨hnone, Or.inl h⟩
    · exact ⟨hnone, Or.inr (Or.inl h)⟩
    · exact ⟨hnone, Or.inr (Or.inr ⟨hx, Or.inl hsrc⟩)⟩

/-! ## Keywords that are left -/

theorem hasKeywords_eq_false_iff {a : Allowlist} :
    a.hasKeywords = false ↔ ∀ k : Keyword, ¬ k.text ∈ a.members := by
  rw [hasKeywords, List.any_eq_false]
  constructor
  · intro h k hk
    apply h k.text hk
    cases k with
    | self => rfl
    | src => rfl
    | none => rfl
  · intro h x hx hkeyword
    simp only [isKeyword, Bool.or_eq_true, beq_iff_eq] at hkeyword
    rcases hkeyword with (rfl | rfl) | rfl
    · exact h .self hx
    · exact h .src hx
    · exact h .none hx

/-- No keyword is left in a resolved allowlist, unless the page or the frame is
written like one. -/
theorem hasKeywords_resolve (hpage : ∀ k : Keyword, page ≠ k.text)
    (hsrc : ∀ k : Keyword, src ≠ some k.text) (a : Allowlist) :
    (a.resolve page src).hasKeywords = false := by
  cases a with
  | wildcard => rfl
  | deny => rfl
  | origins set =>
      have hframe (k : Keyword) : namedFrame src ≠ some k.text := by
        intro h
        exact hsrc k (Option.eq_some_of_filter_eq_some h)
      rw [hasKeywords_eq_false_iff]
      intro k hk
      rw [mem_resolve_origins (hpage .src)] at hk
      obtain ⟨hnone, ⟨hmem, hself, hsrc⟩ | ⟨-, heq⟩ | ⟨heq, -⟩⟩ := hk
      · cases k with
        | self => exact hself rfl
        | src => exact hsrc rfl
        | none => exact hnone hmem
      · exact hpage k heq.symm
      · exact hframe k heq

end Allowlist

theorem PolicyMap.firstUnresolved?_eq_none_iff {grants : Grants} :
    firstUnresolved? grants = none ↔
      ∀ entry ∈ grants.entries, entry.2.hasKeywords = false := by
  rw [firstUnresolved?, Option.map_eq_none_iff, List.find?_eq_none]
  simp only [Bool.not_eq_true]

theorem PolicyMap.firstUnresolved?_resolve {page : String} {src : Option String}
    (hpage : ∀ k : Keyword, page ≠ k.text)
    (hsrc : ∀ k : Keyword, src ≠ some k.text) (grants : Grants) :
    firstUnresolved? (grants.resolve page src) = none := by
  rw [firstUnresolved?_eq_none_iff]
  intro entry hentry
  obtain ⟨old, -, rfl⟩ := List.mem_map.mp hentry
  exact Allowlist.hasKeywords_resolve hpage hsrc old.2

theorem PolicyMap.normalized_eq_ok_iff {grants : Grants} {m : PolicyMap} :
    normalized grants = .ok m ↔
      firstUnresolved? grants = none ∧ m = { form := .normalized, grants } := by
  unfold normalized
  cases firstUnresolved? grants with
  | none =>
      constructor
      · intro h
        exact ⟨rfl, (Except.ok.inj h).symm⟩
      · rintro ⟨-, rfl⟩
        rfl
  | some feature => exact ⟨nofun, nofun⟩

/-- Whether a map may be used: one of normalized form has to be free of
keywords. -/
def PolicyMap.IsValid (m : PolicyMap) : Prop :=
  m.form = .normalized → PolicyMap.firstUnresolved? m.grants = none

instance (m : PolicyMap) : Decidable m.IsValid :=
  inferInstanceAs (Decidable (_ → _))

theorem Grants.get?_resolve (page : String) (src : Option String)
    (grants : Grants) (feature : String) :
    (grants.resolve page src).get? feature =
      (grants.get? feature).map (Allowlist.resolve page src) :=
  OrderedMap.get?_map _ grants feature

end FeatureGrant
