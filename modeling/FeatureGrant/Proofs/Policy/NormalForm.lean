import FeatureGrant.Proofs.Policy.Stored

/-!
# Normal forms of policy maps

A map that was written for a page, and perhaps for a frame, always has a normal
form.  It names the same features in the same order, each of its allowlists
holds what the written one stands for, no keyword is left in it, and it is the
normal form of itself for every page and every frame.
-/

namespace FeatureGrant

variable {page : String} {src : Option String}

namespace Allowlist

/-- Whether a text belongs to what a set of origins stands for: a denied set
stands for nothing, an empty one for the frame, and every other for its
members, with the page and the frame in the place of their keywords. -/
structure StandsFor (page : String) (src : Option String) (set : SortedSet)
    (x : String) : Prop where
  granted : ¬ Keyword.none.text ∈ set
  keyword : ∀ k : Keyword, x ≠ k.text
  named : x ∈ set ∨ (Keyword.self.text ∈ set ∧ x = page) ∨
    (src = some x ∧ (Keyword.src.text ∈ set ∨ ∀ y : String, ¬ y ∈ set))

/-- What becomes of an allowlist in a normal form. -/
inductive Resolves (page : String) (src : Option String) :
    Allowlist → Allowlist → Prop
  | wildcard : Resolves page src wildcard wildcard
  | deny : Resolves page src deny deny
  | origins {written resolved : SortedSet}
      (hmem : ∀ x : String, x ∈ resolved ↔ StandsFor page src written x) :
      Resolves page src (origins written) (origins resolved)

theorem namedFrame_eq_self (hsrc : ∀ frame, src = some frame → IsOrigin frame) :
    namedFrame src = src := by
  cases src with
  | none => rfl
  | some frame =>
      obtain ⟨url, hurl⟩ := hsrc frame rfl
      rw [namedFrame, Option.filter_some, if_pos]
      exact decide_eq_true (ne_empty_of_canonical? hurl)

theorem src_ne_keyword (hsrc : ∀ frame, src = some frame → IsOrigin frame)
    (k : Keyword) : src ≠ some k.text := by
  intro hk
  exact (hsrc _ hk).ne_keyword k rfl

/-- The members of a resolved set, if the page and the frame are origins, which
are never written like keywords. -/
theorem mem_resolve_origins_iff (hpage : IsOrigin page)
    (hsrc : ∀ frame, src = some frame → IsOrigin frame) {set : SortedSet}
    {x : String} :
    x ∈ ((origins set).resolve page src).members ↔
      StandsFor page src set x := by
  rw [mem_resolve_origins (hpage.ne_keyword .src), namedFrame_eq_self hsrc,
    SortedSet.isEmpty_iff]
  constructor
  · rintro ⟨hnone, ⟨hx, hself, hsrc'⟩ | ⟨hself, rfl⟩ | ⟨hframe, hlisted⟩⟩
    · refine ⟨hnone, ?_, Or.inl hx⟩
      intro k hk
      cases k with
      | self => exact hself hk
      | src => exact hsrc' hk
      | none => exact hnone (hk ▸ hx)
    · exact ⟨hnone, hpage.ne_keyword, Or.inr (Or.inl ⟨hself, rfl⟩)⟩
    · exact ⟨hnone, (hsrc x hframe).ne_keyword,
        Or.inr (Or.inr ⟨hframe, hlisted⟩)⟩
  · rintro ⟨hnone, hkeyword, hx | hself | hframe⟩
    · exact ⟨hnone, Or.inl ⟨hx, hkeyword .self, hkeyword .src⟩⟩
    · exact ⟨hnone, Or.inr (Or.inl hself)⟩
    · exact ⟨hnone, Or.inr (Or.inr hframe)⟩

theorem allows_resolve_origins_iff (hpage : IsOrigin page)
    (hsrc : ∀ frame, src = some frame → IsOrigin frame) {set : SortedSet}
    {x : String} :
    ((origins set).resolve page src).allows x = true ↔
      StandsFor page src set x := by
  rw [resolve_origins, allows, decide_eq_true_iff,
    mem_resolve_origins_iff hpage hsrc]

/-- Resolution does to an allowlist what its normal form asks for, and nothing
else does. -/
theorem resolves_iff (hpage : IsOrigin page)
    (hsrc : ∀ frame, src = some frame → IsOrigin frame) {a b : Allowlist} :
    a.Resolves page src b ↔ b = a.resolve page src := by
  constructor
  · intro h
    cases h with
    | wildcard => rfl
    | deny => rfl
    | @origins written resolved hmem =>
        rw [resolve_origins, Allowlist.origins.injEq]
        apply SortedSet.ext_mem
        intro x
        rw [hmem, mem_resolve_origins_iff hpage hsrc]
  · rintro rfl
    cases a with
    | wildcard => exact .wildcard
    | deny => exact .deny
    | origins set =>
        rw [resolve_origins]
        apply Resolves.origins
        intro x
        exact mem_resolve_origins_iff hpage hsrc

end Allowlist

namespace PolicyMap

/-- The normal form of a map for a page and a frame. -/
structure IsNormalForm (page : String) (src : Option String)
    (written n : PolicyMap) : Prop where
  form : n.form = .normalized
  keys : n.grants.keys = written.grants.keys
  resolves : ∀ feature a, written.grants.get? feature = some a →
    ∃ b, n.grants.get? feature = some b ∧ a.Resolves page src b
  keyword : ∀ feature b, n.grants.get? feature = some b →
    ∀ k : Keyword, ¬ k.text ∈ b.members
  again : ∀ page' src', n.normalize page' src' = .ok n

theorem isNormalForm_resolve (hpage : IsOrigin page)
    (hsrc : ∀ frame, src = some frame → IsOrigin frame) (grants : Grants) :
    IsNormalForm page src { form := .parsed, grants }
      { form := .normalized, grants := grants.resolve page src } where
  form := rfl
  keys := OrderedMap.keys_map _ grants
  resolves := by
    intro feature a ha
    refine ⟨a.resolve page src, ?_, (Allowlist.resolves_iff hpage hsrc).mpr rfl⟩
    rw [Grants.get?_resolve, ha]
    rfl
  keyword := by
    intro feature b hb
    rw [Grants.get?_resolve] at hb
    obtain ⟨a, -, rfl⟩ := Option.map_eq_some_iff.mp hb
    apply Allowlist.hasKeywords_eq_false_iff.mp
    exact Allowlist.hasKeywords_resolve hpage.ne_keyword
      (Allowlist.src_ne_keyword hsrc) a
  again := by
    intro page' src'
    rfl

/-- Every map that is read can be brought into normal form for the origin of a
page and, in a frame, the origin of the frame. -/
theorem exists_isNormalForm (hpage : IsOrigin page)
    (hsrc : ∀ frame, src = some frame → IsOrigin frame) (grants : Grants) :
    ∃ n, normalize page src { form := .parsed, grants } = .ok n ∧
      IsNormalForm page src { form := .parsed, grants } n := by
  refine ⟨_, ?_, isNormalForm_resolve hpage hsrc grants⟩
  exact normalize_eq_ok hpage.ne_keyword (Allowlist.src_ne_keyword hsrc) _

/-- Allowlists with every keyword, for the page, for the frame, and for
nothing. -/
def mixedGrants : Grants :=
  .ofList [("usb", .wildcard), ("midi", .deny),
    ("camera", .ofList ["'src'", "'self'", "https://c.example"]),
    ("serial", .ofList ["'none'", "'self'"]), ("hid", .ofList [])]

/-- The normal form of these allowlists in a frame of another page. -/
theorem mixedGrants_isNormalForm :
    IsOrigin "https://a.example" ∧ IsOrigin "https://b.example" ∧
      ∃ n, normalize "https://a.example" (some "https://b.example")
          { form := .parsed, grants := mixedGrants } = .ok n ∧
        IsNormalForm "https://a.example" (some "https://b.example")
          { form := .parsed, grants := mixedGrants } n := by
  have hpage : IsOrigin "https://a.example" :=
    ⟨"https://a.example", by decide⟩
  have hframe : IsOrigin "https://b.example" :=
    ⟨"https://b.example", by decide⟩
  refine ⟨hpage, hframe, exists_isNormalForm hpage ?_ mixedGrants⟩
  rintro frame ⟨⟩
  exact hframe

end PolicyMap

end FeatureGrant
