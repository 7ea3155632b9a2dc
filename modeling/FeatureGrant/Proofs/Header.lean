import FeatureGrant.Proofs.Origin.Text
import FeatureGrant.Proofs.Request
import FeatureGrant.Proofs.Resolution

/-!
# What a header allows

The allowlist that a header gives to a feature, with its keywords resolved,
allows the origins that the items of its last member of that name allow.
-/

namespace FeatureGrant

open FeatureGrant.Field FeatureGrant.Text

namespace Header

/-! ## The allowlist of a member -/

/-- The origin or keyword that an item adds to an allowlist. -/
def listed? (item : BareItem) : Option String :=
  item.text?.bind fun text =>
    if text = "self" then some Keyword.self.text else canonical? text

/-- The allowlist of listed texts; without any it denies. -/
def listing (found : List String) : Allowlist :=
  if found.isEmpty then .deny else .ofList found

/-- The allowlist of items, behind those that named `found`, said without
going through them one by one. -/
def settled (found : List String) (items : List BareItem) : Allowlist :=
  match items.find? Request.isFinal with
  | some item => if item.text? = some "*" then .wildcard else .deny
  | none => listing ((items.filterMap listed?).reverse ++ found)

theorem isFinal_eq {item : BareItem} {text : String}
    (htext : item.text? = some text) :
    Request.isFinal item = (text == "*" || text == "none") := by
  simp [Request.isFinal, htext]

theorem settled_cons_of_isFinal {found : List String} {item : BareItem}
    {rest : List BareItem} (hfinal : Request.isFinal item = true) :
    settled found (item :: rest) =
      if item.text? = some "*" then .wildcard else .deny := by
  rw [settled, List.find?_cons_of_pos hfinal]

/-- An item that is not final adds what it lists. -/
theorem settled_cons {found : List String} {item : BareItem}
    {rest : List BareItem} (hfinal : Request.isFinal item = false) :
    settled found (item :: rest) =
      settled ((listed? item).toList ++ found) rest := by
  have hnot : ¬ Request.isFinal item = true := Bool.not_eq_true _ ▸ hfinal
  rw [settled, settled, List.find?_cons_of_neg hnot]
  cases hlisted : listed? item with
  | none => rw [List.filterMap_cons_none hlisted, Option.toList, List.nil_append]
  | some text =>
      rw [List.filterMap_cons_some hlisted, List.reverse_cons,
        List.append_assoc, Option.toList]

/-- Reading the items one by one gives the allowlist they settle. -/
theorem allowlistOf_eq {feature : String} {found : List String}
    {items : List BareItem} {a : Allowlist}
    (hok : allowlistOf feature found items = .ok a) :
    a = settled found items := by
  fun_induction allowlistOf feature found items with
  | case1 found =>
      obtain rfl := Except.ok.inj hok
      rfl
  | case2 => exact nomatch hok
  | case3 found item rest htext =>
      obtain rfl := Except.ok.inj hok
      rw [settled_cons_of_isFinal (isFinal_eq htext), if_pos htext]
  | case4 found item rest htext hstar =>
      obtain rfl := Except.ok.inj hok
      rw [settled_cons_of_isFinal (isFinal_eq htext), htext]
      rfl
  | case5 found item rest htext hstar hnone ih =>
      rw [settled_cons (isFinal_eq htext), ih hok]
      simp [listed?, htext]
  | case6 found item rest text htext hstar hnone hself origin horigin ih =>
      have hfinal : Request.isFinal item = false := by
        simp [isFinal_eq htext, hstar, hnone]
      rw [settled_cons hfinal, ih hok]
      simp [listed?, htext, hself, horigin]
  | case7 found item rest text htext hstar hnone hself horigin ih =>
      have hfinal : Request.isFinal item = false := by
        simp [isFinal_eq htext, hstar, hnone]
      rw [settled_cons hfinal, ih hok]
      simp [listed?, htext, hself, horigin]

/-- A member gives the allowlist that its items settle. -/
theorem allowlist_eq {feature : String} {member : Member} {a : Allowlist}
    (hok : allowlist feature member = .ok a) : a = settled [] member.items := by
  unfold allowlist at hok
  split at hok
  · exact nomatch hok
  · exact allowlistOf_eq hok

/-! ## The allowlist with its keywords resolved -/

theorem canonical?_self : canonical? "self" = none := by decide

/-- An item lists an origin if it is the URL of it. -/
theorem listed?_eq_some_iff {item : BareItem} {checked : String}
    (hchecked : ∀ k : Keyword, checked ≠ k.text) :
    listed? item = some checked ↔
      item.text?.bind canonical? = some checked := by
  cases htext : item.text? with
  | none => simp [listed?, htext]
  | some text =>
      by_cases hself : text = "self"
      · have hne := (hchecked .self).symm
        simp [listed?, htext, hself, canonical?_self, hne]
      · simp [listed?, htext, hself]

theorem listed?_eq_self_iff {item : BareItem} :
    listed? item = some Keyword.self.text ↔ item.text? = some "self" := by
  cases htext : item.text? with
  | none => simp [listed?, htext]
  | some text =>
      by_cases hself : text = "self"
      · simp [listed?, htext, hself]
      · have hne : canonical? text ≠ some Keyword.self.text :=
          fun h => ne_keyword_of_canonical? h .self rfl
        simp [listed?, htext, hself, hne]

/-- No item lists another keyword than `'self'`. -/
theorem listed?_ne_keyword {item : BareItem} {k : Keyword} (hk : k ≠ .self) :
    listed? item ≠ some k.text := by
  cases htext : item.text? with
  | none => simp [listed?, htext]
  | some text =>
      by_cases hself : text = "self"
      · have hne : Keyword.self.text ≠ k.text := by
          cases k with
          | self => exact absurd rfl hk
          | src => decide
          | none => decide
        simp [listed?, htext, hself, hne]
      · have hne : canonical? text ≠ some k.text :=
          fun h => ne_keyword_of_canonical? h k rfl
        simp [listed?, htext, hself, hne]

variable {page checked : String}

theorem allows_resolve_listing (hpage : page ≠ Keyword.src.text)
    (hchecked : ∀ k : Keyword, checked ≠ k.text) {found : List String}
    (hfound : ∀ k : Keyword, k ≠ .self → k.text ∉ found) :
    ((listing found).resolve page none).allows checked = true ↔
      checked ∈ found ∨ (Keyword.self.text ∈ found ∧ checked = page) := by
  unfold listing
  split
  next hempty =>
    rw [List.isEmpty_iff] at hempty
    simp [hempty, Allowlist.allows]
  next =>
    have hnone : Keyword.none.text ∉ found := hfound .none (by decide)
    have hsrc : Keyword.src.text ∉ found := hfound .src (by decide)
    rw [Allowlist.ofList, Allowlist.resolve_origins, Allowlist.allows,
      decide_eq_true_iff, Allowlist.mem_resolve_origins hpage]
    simp only [SortedSet.mem_ofList]
    constructor
    · rintro ⟨-, ⟨hmem, -, -⟩ | h | ⟨hframe, -⟩⟩
      · exact Or.inl hmem
      · exact Or.inr h
      · exact nomatch hframe
    · rintro (hmem | h)
      · exact ⟨hnone, Or.inl ⟨hmem, hchecked .self, hchecked .src⟩⟩
      · exact ⟨hnone, Or.inr (Or.inl h)⟩

theorem mem_listed_iff {items : List BareItem} {text : String} :
    text ∈ (items.filterMap listed?).reverse ++ [] ↔
      ∃ item ∈ items, listed? item = some text := by
  rw [List.append_nil, List.mem_reverse, List.mem_filterMap]

theorem itemNames_iff (hchecked : ∀ k : Keyword, checked ≠ k.text)
    {item : BareItem} :
    Request.itemNames page checked item = true ↔
      (listed? item = some Keyword.self.text ∧ checked = page) ∨
        listed? item = some checked := by
  rw [Request.itemNames, Bool.or_eq_true, Bool.and_eq_true, beq_iff_eq,
    beq_iff_eq, beq_iff_eq, listed?_eq_self_iff, listed?_eq_some_iff hchecked,
    eq_comm (a := page)]

/-- What items settle allows, after resolution, what the items allow. -/
theorem allows_resolve_settled (hpage : page ≠ Keyword.src.text)
    (hchecked : ∀ k : Keyword, checked ≠ k.text) (items : List BareItem) :
    ((settled [] items).resolve page none).allows checked =
      Request.itemsAllow page checked items := by
  unfold settled Request.itemsAllow
  cases hfinal : items.find? Request.isFinal with
  | some item =>
      dsimp only
      by_cases hstar : item.text? = some "*"
      · rw [if_pos hstar, hstar]
        rfl
      · rw [if_neg hstar, beq_eq_false_iff_ne.mpr hstar]
        rfl
  | none =>
      dsimp only
      rw [Bool.eq_iff_iff, allows_resolve_listing hpage hchecked, List.any_eq_true]
      · simp only [mem_listed_iff, itemNames_iff hchecked]
        constructor
        · rintro (⟨item, hmem, hitem⟩ | ⟨⟨item, hmem, hitem⟩, heq⟩)
          · exact ⟨item, hmem, Or.inr hitem⟩
          · exact ⟨item, hmem, Or.inl ⟨hitem, heq⟩⟩
        · rintro ⟨item, hmem, ⟨hitem, heq⟩ | hitem⟩
          · exact Or.inr ⟨⟨item, hmem, hitem⟩, heq⟩
          · exact Or.inl ⟨item, hmem, hitem⟩
      · intro k hk hmem
        obtain ⟨item, -, hitem⟩ := mem_listed_iff.mp hmem
        exact listed?_ne_keyword hk hitem

/-! ## The allowlist of a feature -/

/-- A header that can be read holds the members that its text is made of. -/
theorem traverse_of_read {value : String} {grants : Grants}
    (hread : read value = .ok grants) :
    (OrderedMap.ofList (Request.members value)).traverse allowlist =
      .ok grants := by
  unfold read at hread
  unfold Request.members
  dsimp only at hread
  split at hread
  next hblank =>
    rw [if_pos hblank]
    exact hread
  next hblank =>
    rw [if_neg hblank]
    split at hread
    · exact nomatch hread
    · split at hread
      next => exact nomatch hread
      next members hmembers =>
        rw [hmembers]
        exact hread

/-- A feature is mentioned if a member has its name, and gets the allowlist
that the items of the last such member settle. -/
theorem get?_read {value : String} {grants : Grants}
    (hread : read value = .ok grants) (feature : String) :
    grants.get? feature =
      (((Request.members value).reverse.lookup feature).map Member.items).map
        (settled []) := by
  have htraverse := traverse_of_read hread
  have hget := OrderedMap.get?_ofList (Request.members value) feature
  cases hmember : (Request.members value).reverse.lookup feature with
  | none =>
      rw [hmember] at hget
      exact OrderedMap.get?_traverse_of_eq_none htraverse hget
  | some member =>
      rw [hmember] at hget
      obtain ⟨a, hok, ha⟩ :=
        OrderedMap.get?_traverse_of_eq_some htraverse hget
      rw [ha, allowlist_eq hok]
      rfl

end Header

end FeatureGrant
