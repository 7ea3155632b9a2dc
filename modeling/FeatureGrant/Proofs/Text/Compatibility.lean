import FeatureGrant.Proofs.Text.Letters
import FeatureGrant.Text.Ascii
import FeatureGrant.Text.Compatibility

/-!
# Compatibility forms

Where the characters of a compatibility form come from: a letter that was
composed is never ASCII, so an ASCII character of the form is part of the
decomposition of a single character.
-/

namespace FeatureGrant.Text

/-! ## Tables of images -/

/-- Whether a property holds of all images that a shift stands for, and of
where they are listed. -/
def Shift.all (p : List Nat → Nat → Bool) (s : Shift) : Bool :=
  (List.range (s.last + 1 - s.first)).all fun k => p [s.target + k] (s.first + k)

/-- Whether a property holds of all images in a row, and of where they are
listed. -/
def PackedRow.all (p : List Nat → Nat → Bool) (r : ImageRow) : Bool :=
  (cutImages r.units).zipIdx.all fun (image, k) => p image (r.first + k)

/-- Whether a property holds of all images in a table, and of where they are
listed. -/
def ImageTable.all (t : ImageTable) (p : List Nat → Nat → Bool) : Bool :=
  t.shifts.all (·.all p) && t.rows.all (·.all p)

theorem ImageTable.of_image?_eq_some {t : ImageTable} {p : List Nat → Nat → Bool}
    (hall : t.all p = true) {c : Char} {image : List Char}
    (himage : t.image? c = some image) :
    ∃ codes, p codes c.toNat = true ∧ image = codes.map Char.ofNat := by
  obtain ⟨hshifts, hrows⟩ := Bool.and_eq_true_iff.mp hall
  rw [ImageTable.image?] at himage
  split at himage
  next s hfind =>
    have hrange := List.find?_some hfind
    simp only [Bool.and_eq_true, decide_eq_true_eq] at hrange
    have hs := List.all_eq_true.mp hshifts s (List.mem_of_find?_eq_some hfind)
    have hmem : c.toNat - s.first ∈ List.range (s.last + 1 - s.first) := by
      rw [List.mem_range]
      omega
    have hp := List.all_eq_true.mp hs _ hmem
    rw [Nat.add_sub_cancel' hrange.1] at hp
    exact ⟨_, hp, (Option.some.inj himage).symm⟩
  next =>
    obtain ⟨codes, hcodes, rfl⟩ := Option.map_eq_some_iff.mp himage
    obtain ⟨r, hr, hrow⟩ := List.exists_of_findSome?_eq_some hcodes
    split at hrow
    next hrange =>
      simp only [Bool.and_eq_true, decide_eq_true_eq] at hrange
      have hp := List.all_eq_true.mp (List.all_eq_true.mp hrows r hr)
        (codes, c.toNat - r.first) (List.mk_mem_zipIdx_iff_getElem?.mpr hrow)
      dsimp only at hp
      rw [Nat.add_sub_cancel' hrange.1] at hp
      exact ⟨codes, hp, rfl⟩
    next => exact nomatch hrow

/-! ## The order of marks -/

theorem insertMark_perm (c : Char) (s : List Char) :
    (insertMark c s).Perm (c :: s) := by
  induction s with
  | nil => exact List.Perm.refl _
  | cons d rest ih =>
      rw [insertMark]
      split
      next => exact (ih.cons d).trans (List.Perm.swap c d rest)
      next => exact List.Perm.refl _

/-- Marks are moved, not changed. -/
theorem orderMarks_perm (s : List Char) : (orderMarks s).Perm s := by
  induction s with
  | nil => exact List.Perm.refl _
  | cons c rest ih => exact (insertMark_perm c _).trans (ih.cons c)

/-! ## Composed letters -/

/-- Whether the code point of a character lies beyond ASCII. -/
def isForeignCode (n : Nat) : Bool :=
  Nat.ble 0x80 n && (Nat.blt n 0xD800 || Nat.blt 0xDFFF n && Nat.blt n 0x110000)

theorem isForeignCode_iff {n : Nat} :
    isForeignCode n = true ↔
      0x80 ≤ n ∧ (n < 0xD800 ∨ 0xDFFF < n ∧ n < 0x110000) := by
  rw [isForeignCode, Bool.and_eq_true, Bool.or_eq_true, Bool.and_eq_true, Nat.ble_eq,
    Nat.blt_eq, Nat.blt_eq, Nat.blt_eq]

theorem isAsciiChar_ofNat {n : Nat} (hn : isForeignCode n = true) :
    isAsciiChar (Char.ofNat n) = false := by
  rw [isForeignCode_iff] at hn
  have hvalid : n.isValidChar := by
    unfold Nat.isValidChar
    omega
  rw [isAsciiChar, toNat_ofNat, if_pos hvalid, decide_eq_false_iff_not]
  omega

theorem compositionRows_foreign :
    (compositionRows.all fun row => row.units.all isForeignCode) = true := by
  decide +kernel

theorem mem_of_pairedWith {a b : Nat} {units : List Nat}
    (h : pairedWith a units = some b) : b ∈ units := by
  fun_induction pairedWith a units with
  | case1 c d rest hc =>
      obtain rfl := Option.some.inj h
      exact List.mem_cons_of_mem c List.mem_cons_self
  | case2 c d rest hc ih =>
      exact List.mem_cons_of_mem c (List.mem_cons_of_mem d (ih h))
  | case3 => exact nomatch h

/-- What a letter and a mark make is not ASCII. -/
theorem isAsciiChar_of_composePair? {a b c : Char}
    (h : composePair? a b = some c) : isAsciiChar c = false := by
  rw [composePair?] at h
  split at h
  next hrange =>
    simp only [Bool.and_eq_true, decide_eq_true_eq] at hrange
    obtain rfl := Option.some.inj h
    exact isAsciiChar_ofNat (isForeignCode_iff.mpr (by omega))
  next =>
    split at h
    next hrange =>
      simp only [Bool.and_eq_true, decide_eq_true_eq] at hrange
      obtain rfl := Option.some.inj h
      exact isAsciiChar_ofNat (isForeignCode_iff.mpr (by omega))
    next =>
      obtain ⟨n, hn, rfl⟩ := Option.map_eq_some_iff.mp h
      obtain ⟨row, hrow, hpair⟩ := List.exists_of_findSome?_eq_some hn
      have hunits := List.all_eq_true.mp compositionRows_foreign row
        (List.mem_filter.mp hrow).1
      exact isAsciiChar_ofNat (List.all_eq_true.mp hunits n (mem_of_pairedWith hpair))

theorem mem_composeBehind {letter : Char} {kept rest : List Char} {highest : Nat}
    {c : Char} (hc : c ∈ composeBehind letter kept highest rest)
    (hascii : isAsciiChar c = true) : c = letter ∨ c ∈ kept ∨ c ∈ rest := by
  induction rest generalizing letter kept highest with
  | nil =>
      rw [composeBehind, List.mem_cons, List.mem_reverse] at hc
      exact hc.imp_right Or.inl
  | cons d rest ih =>
      rw [composeBehind] at hc
      split at hc
      next made hmade =>
        have hpair : composePair? letter d = some made := by
          split at hmade
          next => exact nomatch hmade
          next => exact hmade
        rcases ih hc with rfl | hkept | hrest
        · rw [isAsciiChar_of_composePair? hpair] at hascii
          exact nomatch hascii
        · exact Or.inr (Or.inl hkept)
        · exact Or.inr (Or.inr (List.mem_cons_of_mem d hrest))
      next =>
        have hkeep {highest' : Nat}
            (hc : c ∈ composeBehind letter (d :: kept) highest' rest) :
            c = letter ∨ c ∈ kept ∨ c ∈ d :: rest := by
          rcases ih hc with hletter | hkept | hrest
          · exact Or.inl hletter
          · rcases List.mem_cons.mp hkept with rfl | hkept
            · exact Or.inr (Or.inr List.mem_cons_self)
            · exact Or.inr (Or.inl hkept)
          · exact Or.inr (Or.inr (List.mem_cons_of_mem d hrest))
        split at hc
        next =>
          rw [List.mem_append, List.mem_cons, List.mem_reverse] at hc
          rcases hc with hletter | hbehind
          · exact hletter.imp_right Or.inl
          · rcases ih hbehind with rfl | hkept | hrest
            · exact Or.inr (Or.inr List.mem_cons_self)
            · exact nomatch hkept
            · exact Or.inr (Or.inr (List.mem_cons_of_mem d hrest))
        next =>
          split at hc
          next => exact hkeep hc
          next => exact hkeep hc

/-- An ASCII character of a composed text was there before. -/
theorem mem_of_mem_compose {c : Char} {s : List Char} (hc : c ∈ compose s)
    (hascii : isAsciiChar c = true) : c ∈ s := by
  cases s with
  | nil => exact nomatch hc
  | cons d rest =>
      rcases mem_composeBehind hc hascii with rfl | hkept | hrest
      · exact List.mem_cons_self
      · exact nomatch hkept
      · exact List.mem_cons_of_mem d hrest

/-- An ASCII character of a compatibility form is part of a decomposition. -/
theorem exists_of_mem_compatibilityForm {c : Char} {s : List Char}
    (hc : c ∈ compatibilityForm s) (hascii : isAsciiChar c = true) :
    ∃ d ∈ s, c ∈ decompose d := by
  have hordered := mem_of_mem_compose hc hascii
  exact List.mem_flatMap.mp ((orderMarks_perm _).mem_iff.mp hordered)

end FeatureGrant.Text
