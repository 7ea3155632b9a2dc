import FeatureGrant.Host.Address
import FeatureGrant.Proofs.Text.LowerCase
import FeatureGrant.Proofs.Text.Pieces

/-!
# Addresses in lower case

A text is an address if its lower-case form is one.  An eight-part address is
ASCII but for its zone, and it holds a colon, which no four-part address does.
-/

namespace FeatureGrant.Host

open FeatureGrant.Text

/-! ## Characters -/

theorem isDigit_toLower (c : Char) : c.toLower.isDigit = c.isDigit :=
  forall_toLower (P := fun c d => d.isDigit = c.isDigit) (fun _ => rfl)
    (by decide) c

theorem isHexDigit_toLower (c : Char) : isHexDigit c.toLower = isHexDigit c :=
  forall_toLower (P := fun c d => isHexDigit d = isHexDigit c) (fun _ => rfl)
    (by decide) c

theorem toLower_beq_colon (c : Char) : (c.toLower == ':') = (c == ':') :=
  forall_toLower (P := fun c d => (d == ':') = (c == ':')) (fun _ => rfl)
    (by decide) c

theorem toLower_beq_dot (c : Char) : (c.toLower == '.') = (c == '.') :=
  forall_toLower (P := fun c d => (d == '.') = (c == '.')) (fun _ => rfl)
    (by decide) c

theorem toLower_of_isDigit {c : Char} (hc : c.isDigit = true) : c.toLower = c :=
  forall_toLower (P := fun c d => c.isDigit = true → d = c) (fun _ _ => rfl)
    (by decide) c hc

/-- Whether a character may stand in an address without a zone. -/
def isAddressChar (c : Char) : Bool := isHexDigit c || c == '.' || c == ':'

theorem isAddressChar_of_isHexDigit {c : Char} (hc : isHexDigit c = true) :
    isAddressChar c = true := by
  rw [isAddressChar, hc]
  rfl

theorem isHexDigit_of_isDigit {c : Char} (hc : c.isDigit = true) :
    isHexDigit c = true := by
  rw [isHexDigit, hc]
  rfl

theorem isAsciiChar_of_isHexDigit {c : Char} (hc : isHexDigit c = true) :
    isAsciiChar c = true := by
  simp only [isHexDigit, Bool.or_eq_true, Bool.and_eq_true, decide_eq_true_eq] at hc
  rw [isAsciiChar, decide_eq_true_eq]
  rcases hc with (hdigit | ⟨-, hlast⟩) | ⟨-, hlast⟩
  · have hlast := (isDigit_iff_code.mp hdigit).2
    omega
  · have hlast : c.toNat ≤ 0x66 := hlast
    omega
  · have hlast : c.toNat ≤ 0x46 := hlast
    omega

theorem isAsciiChar_of_isAddressChar {c : Char} (hc : isAddressChar c = true) :
    isAsciiChar c = true := by
  rw [isAddressChar, Bool.or_eq_true, Bool.or_eq_true, beq_iff_eq, beq_iff_eq] at hc
  rcases hc with (hdigit | rfl) | rfl
  · exact isAsciiChar_of_isHexDigit hdigit
  · rfl
  · rfl

/-! ## Lower case -/

theorem isByte_toLower (s : List Char) : isByte (s.map Char.toLower) = isByte s := by
  cases hdigits : s.all (·.isDigit) with
  | true =>
      have hsame : s.map Char.toLower = s := by
        rw [List.all_eq_true] at hdigits
        calc s.map Char.toLower
            = s.map id :=
              List.map_congr_left fun c hc => toLower_of_isDigit (hdigits c hc)
          _ = s := List.map_id s
      rw [hsame]
  | false =>
      have hlower : (s.map Char.toLower).all (·.isDigit) = false := by
        rw [List.all_map, ← hdigits]
        exact congrArg s.all (funext isDigit_toLower)
      rw [isByte, isByte, hdigits, hlower, Bool.and_false, Bool.and_false]
      rfl

theorem isIp4_toLower (s : List Char) : isIp4 (s.map Char.toLower) = isIp4 s := by
  have hbytes : isByte ∘ List.map Char.toLower = isByte := funext isByte_toLower
  rw [isIp4, isIp4, splitOn_map toLower_beq_dot, List.length_map, List.all_map, hbytes]

theorem isGroup_toLower (s : List Char) :
    isGroup (s.map Char.toLower) = isGroup s := by
  have hdigits : isHexDigit ∘ Char.toLower = isHexDigit :=
    funext isHexDigit_toLower
  rw [isGroup, isGroup, List.isEmpty_map, List.length_map, List.all_map, hdigits]

theorem groupCount?_toLower (final : Bool) (groups : List (List Char)) :
    groupCount? final (groups.map (List.map Char.toLower)) =
      groupCount? final groups := by
  induction groups with
  | nil => rfl
  | cons first rest ih =>
      cases rest with
      | nil =>
          rw [List.map_cons, List.map_nil, groupCount?, groupCount?, isGroup_toLower,
            isIp4_toLower]
      | cons second others =>
          have hstep (s t : List Char) (more : List (List Char)) :
              groupCount? final (s :: t :: more) =
                if isGroup s then (groupCount? final (t :: more)).map (· + 1)
                else none := rfl
          rw [List.map_cons] at ih
          rw [List.map_cons, List.map_cons, hstep, hstep, isGroup_toLower, ih]

theorem groups_toLower (s : List Char) :
    groups (s.map Char.toLower) = (groups s).map (List.map Char.toLower) := by
  cases s with
  | nil => rfl
  | cons c rest => exact splitOn_map toLower_beq_colon (c :: rest)

theorem splitDouble?_toLower (s : List Char) :
    splitDouble? (s.map Char.toLower) =
      (splitDouble? s).map
        (Prod.map (List.map Char.toLower) (List.map Char.toLower)) := by
  fun_induction splitDouble? s with
  | case1 rest => rfl
  | case2 c rest hdouble ih =>
      rw [List.map_cons, splitDouble?, ih]
      · cases splitDouble? rest <;> rfl
      · intro more hc hmore
        obtain ⟨d, tail, rfl, hd, -⟩ := List.map_eq_cons_iff.mp hmore
        have hcolon (e : Char) (he : e.toLower = ':') : e = ':' := by
          rw [← beq_iff_eq, ← toLower_beq_colon, beq_iff_eq]
          exact he
        exact hdouble tail (hcolon c hc) (by rw [hcolon d hd])
  | case3 => rfl

theorem isIp6Groups_toLower (s : List Char) :
    isIp6Groups (s.map Char.toLower) = isIp6Groups s := by
  rw [isIp6Groups, isIp6Groups, splitDouble?_toLower]
  cases splitDouble? s with
  | none =>
      dsimp only [Option.map_none]
      rw [groups_toLower, groupCount?_toLower]
  | some parts =>
      obtain ⟨high, low⟩ := parts
      dsimp only [Option.map_some, Prod.map]
      rw [groups_toLower, groups_toLower, groupCount?_toLower, groupCount?_toLower]

/-! ## The characters of an address -/

theorem splitDouble?_eq_some {s high low : List Char}
    (h : splitDouble? s = some (high, low)) : s = high ++ ':' :: ':' :: low := by
  fun_induction splitDouble? s generalizing high low with
  | case1 rest =>
      obtain ⟨rfl, rfl⟩ := Prod.mk.inj (Option.some.inj h)
      rfl
  | case2 c rest hdouble ih =>
      obtain ⟨⟨a, b⟩, hparts, heq⟩ := Option.map_eq_some_iff.mp h
      obtain ⟨rfl, rfl⟩ := Prod.mk.inj heq
      exact congrArg (c :: ·) (ih hparts)
  | case3 => exact nomatch h

theorem digit_or_dot_of_isIp4 {s : List Char} (h : isIp4 s = true) {c : Char}
    (hc : c ∈ s) : c = '.' ∨ c.isDigit = true := by
  rw [isIp4, Bool.and_eq_true, List.all_eq_true] at h
  rcases mem_splitOn_of_mem '.' hc with hdot | ⟨piece, hpiece, hc⟩
  · exact Or.inl hdot
  · have hbyte := h.2 piece hpiece
    simp only [isByte, Bool.and_eq_true, List.all_eq_true] at hbyte
    exact Or.inr (hbyte.1.1.2 c hc)

theorem all_isAddressChar_of_isIp4 {s : List Char} (h : isIp4 s = true) :
    s.all isAddressChar = true := by
  rw [List.all_eq_true]
  intro c hc
  rcases digit_or_dot_of_isIp4 h hc with rfl | hdigit
  · rfl
  · exact isAddressChar_of_isHexDigit (isHexDigit_of_isDigit hdigit)

theorem all_isAddressChar_of_isGroup {s : List Char} (h : isGroup s = true) :
    s.all isAddressChar = true := by
  rw [isGroup, Bool.and_eq_true, List.all_eq_true] at h
  rw [List.all_eq_true]
  exact fun c hc => isAddressChar_of_isHexDigit (h.2 c hc)

theorem all_isAddressChar_of_groupCount? {final : Bool} {groups : List (List Char)}
    {n : Nat} (h : groupCount? final groups = some n) :
    ∀ group ∈ groups, group.all isAddressChar = true := by
  fun_induction groupCount? final groups generalizing n with
  | case1 => exact nofun
  | case2 s hgroup =>
      intro group hmem
      rw [List.mem_singleton.mp hmem]
      exact all_isAddressChar_of_isGroup hgroup
  | case3 s hgroup hip4 =>
      intro group hmem
      rw [List.mem_singleton.mp hmem]
      exact all_isAddressChar_of_isIp4 (Bool.and_eq_true_iff.mp hip4).2
  | case4 => exact nomatch h
  | case5 s rest hrest hgroup ih =>
      obtain ⟨m, hm, -⟩ := Option.map_eq_some_iff.mp h
      intro group hmem
      rcases List.mem_cons.mp hmem with rfl | hmem
      · exact all_isAddressChar_of_isGroup hgroup
      · exact ih hm group hmem
  | case6 => exact nomatch h

theorem all_isAddressChar_of_groups {final : Bool} {s : List Char} {n : Nat}
    (h : groupCount? final (groups s) = some n) : s.all isAddressChar = true := by
  rw [groups] at h
  split at h
  next hempty =>
    rw [List.isEmpty_iff.mp hempty]
    rfl
  next => exact all_of_splitOn rfl (all_isAddressChar_of_groupCount? h)

theorem all_isAddressChar_of_isIp6Groups {s : List Char} (h : isIp6Groups s = true) :
    s.all isAddressChar = true := by
  rw [isIp6Groups] at h
  split at h
  next high low hparts =>
    obtain rfl := splitDouble?_eq_some hparts
    split at h
    next m n hhigh hlow =>
      rw [List.all_append, List.all_cons, List.all_cons,
        all_isAddressChar_of_groups hhigh, all_isAddressChar_of_groups hlow]
      rfl
    next => exact nomatch h
  next => exact all_isAddressChar_of_groups (beq_iff_eq.mp h)

/-- An eight-part address has a colon. -/
theorem colon_mem_of_isIp6Groups {s : List Char} (h : isIp6Groups s = true) :
    ':' ∈ s := by
  rw [isIp6Groups] at h
  split at h
  next high low hparts =>
    rw [splitDouble?_eq_some hparts]
    exact List.mem_append_right high List.mem_cons_self
  next =>
    refine Decidable.byContradiction fun hcolon => ?_
    rw [beq_iff_eq, groups] at h
    split at h
    next => exact nomatch h
    next =>
      rw [List.splitOn_eq_singleton hcolon, groupCount?] at h
      split at h
      next => exact nomatch h
      next => split at h <;> exact nomatch h

theorem isIp4_eq_false_of_colon_mem {s : List Char} (h : ':' ∈ s) :
    isIp4 s = false := by
  cases hip4 : isIp4 s with
  | false => rfl
  | true =>
      rcases digit_or_dot_of_isIp4 hip4 h with hdot | hdigit
      · exact nomatch hdot
      · exact nomatch hdigit

/-! ## The two kinds of addresses -/

/-- An address of a future version is a `v`, hexadecimal digits, a full stop
and more. -/
theorem isFutureAddress_iff {s : List Char} :
    isFutureAddress s = true ↔
      ∃ version more, s = 'v' :: (version ++ '.' :: more) ∧ version ≠ [] ∧
        version.all isHexDigit = true ∧ more ≠ [] := by
  constructor
  · intro h
    rw [isFutureAddress.eq_def] at h
    split at h
    next rest =>
      simp only [Bool.and_eq_true, Bool.not_eq_true', List.isEmpty_eq_false_iff,
        beq_iff_eq, decide_eq_true_eq] at h
      obtain ⟨⟨hversion, hdot⟩, hlength⟩ := h
      obtain ⟨more, hmore⟩ := List.head?_eq_some_iff.mp hdot
      refine ⟨rest.takeWhile isHexDigit, more, ?_, hversion,
        List.all_takeWhile, ?_⟩
      · rw [← hmore, List.takeWhile_append_dropWhile]
      · rintro rfl
        rw [hmore] at hlength
        exact absurd hlength (by decide)
    next => exact nomatch h
  · rintro ⟨version, more, rfl, hversion, hdigits, hmore⟩
    rw [List.all_eq_true] at hdigits
    have hdot : isHexDigit '.' = false := by decide
    rw [isFutureAddress, List.takeWhile_append_of_pos hdigits,
      List.dropWhile_append_of_pos hdigits,
      List.takeWhile_cons_of_neg (Bool.eq_false_iff.mp hdot),
      List.dropWhile_cons_of_neg (Bool.eq_false_iff.mp hdot),
      List.append_nil]
    simp only [Bool.and_eq_true, Bool.not_eq_true', List.isEmpty_eq_false_iff,
      beq_iff_eq, decide_eq_true_eq, List.length_cons]
    have hlength := List.length_pos_iff.mpr hmore
    exact ⟨⟨hversion, rfl⟩, by omega⟩

/-- An eight-part address may have a zone. -/
theorem isIp6_iff {s : List Char} :
    isIp6 s = true ↔
      '%' ∉ s ∧ isIp6Groups s = true ∨
        ∃ address zone, s = address ++ '%' :: zone ∧ '%' ∉ address ∧
          '%' ∉ zone ∧ isIp6Groups address = true ∧ zone ≠ [] := by
  have hnone (hs : '%' ∉ s) : isIp6 s = isIp6Groups s := by
    rw [isIp6, List.splitOn_eq_singleton hs]
  have hzone {address zone : List Char} (haddress : '%' ∉ address)
      (hzone : '%' ∉ zone) : isIp6 (address ++ '%' :: zone) =
        (isIp6Groups address && !zone.isEmpty) := by
    rw [isIp6, List.splitOn_append_cons_self_of_not_mem haddress,
      List.splitOn_eq_singleton hzone]
  constructor
  · intro h
    by_cases hs : '%' ∈ s
    · obtain ⟨address, rest, rfl, haddress⟩ := List.eq_append_cons_of_mem hs
      by_cases hrest : '%' ∈ rest
      · -- A second percent sign makes three pieces or more.
        obtain ⟨zone, more, rfl, hzone⟩ := List.eq_append_cons_of_mem hrest
        rw [isIp6, List.splitOn_append_cons_self_of_not_mem haddress,
          List.splitOn_append_cons_self_of_not_mem hzone] at h
        split at h
        next heq => exact nomatch (List.cons.inj heq).2
        next heq =>
          exact absurd (List.cons.inj (List.cons.inj heq).2).2
            (List.splitOn_ne_nil _ _)
        next => exact nomatch h
      · rw [hzone haddress hrest, Bool.and_eq_true, Bool.not_eq_true',
          List.isEmpty_eq_false_iff] at h
        exact Or.inr ⟨address, rest, rfl, haddress, hrest, h.1, h.2⟩
    · rw [hnone hs] at h
      exact Or.inl ⟨hs, h⟩
  · rintro (⟨hs, h⟩ | ⟨address, zone, rfl, haddress, hclear, h, hne⟩)
    · rw [hnone hs]
      exact h
    · rw [hzone haddress hclear, h, List.isEmpty_eq_false_iff.mpr hne]
      rfl

end FeatureGrant.Host
