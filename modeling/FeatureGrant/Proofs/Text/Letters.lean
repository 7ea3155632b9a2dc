/-!
# ASCII letters and digits

Letters and digits by their code points, and what becomes of letters in lower case.
-/

namespace FeatureGrant.Text

/-- Characters of a class differ from all others. -/
theorem ne_of_class {p : Char → Bool} {c d : Char} (hc : p c = true)
    (hd : p d = false) : c ≠ d := by
  rintro rfl
  exact Bool.false_ne_true (hd.symm.trans hc)

theorem isUpper_iff_code {c : Char} :
    c.isUpper = true ↔ 0x41 ≤ c.toNat ∧ c.toNat ≤ 0x5A :=
  decide_eq_true_iff

theorem isLower_iff_code {c : Char} :
    c.isLower = true ↔ 0x61 ≤ c.toNat ∧ c.toNat ≤ 0x7A :=
  Bool.and_eq_true_iff.trans (and_congr decide_eq_true_iff decide_eq_true_iff)

theorem isDigit_iff_code {c : Char} :
    c.isDigit = true ↔ 0x30 ≤ c.toNat ∧ c.toNat ≤ 0x39 :=
  Char.isDigit_iff_toNat

theorem isAlpha_iff_code {c : Char} :
    c.isAlpha = true ↔
      (0x41 ≤ c.toNat ∧ c.toNat ≤ 0x5A) ∨ (0x61 ≤ c.toNat ∧ c.toNat ≤ 0x7A) :=
  Bool.or_eq_true_iff.trans (or_congr isUpper_iff_code isLower_iff_code)

theorem isLower_of_isUpper {c : Char} (hc : c.isUpper = true) : c.isLower = false := by
  rw [isUpper_iff_code] at hc
  rw [Bool.eq_false_iff, Ne, isLower_iff_code]
  omega

theorem toNat_ofNat (n : Nat) :
    (Char.ofNat n).toNat = if n.isValidChar then n else 0 := by
  by_cases hvalid : n.isValidChar
  · rw [if_pos hvalid]
    exact congrArg Char.toNat (dif_pos hvalid)
  · rw [if_neg hvalid]
    exact congrArg Char.toNat (dif_neg hvalid)

/-! ## Lower-casing -/

theorem toLower_of_isUpper_eq_false {c : Char} (hc : c.isUpper = false) :
    c.toLower = c :=
  dif_neg (of_decide_eq_false hc)

/-- What holds of capital letters, and of characters that lower-casing leaves
as they are, holds of all. -/
theorem forall_toLower {P : Char → Char → Prop} (hsame : ∀ c, P c c)
    (hupper : ∀ k < 26, P (Char.ofNat (0x41 + k)) (Char.ofNat (0x41 + k)).toLower)
    (c : Char) : P c c.toLower := by
  cases hc : c.isUpper with
  | false =>
      rw [toLower_of_isUpper_eq_false hc]
      exact hsame c
  | true =>
      obtain ⟨hfirst, hlast⟩ := isUpper_iff_code.mp hc
      have hk := hupper (c.toNat - 0x41) (by omega)
      rw [Nat.add_sub_cancel' hfirst, Char.ofNat_toNat] at hk
      exact hk

theorem isLower_toLower_of_isUpper {c : Char} (hc : c.isUpper = true) :
    c.toLower.isLower = true := by
  obtain ⟨hfirst, hlast⟩ := isUpper_iff_code.mp hc
  have hall : ∀ k < 26, (Char.ofNat (0x41 + k)).toLower.isLower = true := by decide
  have hk := hall (c.toNat - 0x41) (by omega)
  rwa [Nat.add_sub_cancel' hfirst, Char.ofNat_toNat] at hk

theorem isUpper_toLower (c : Char) : c.toLower.isUpper = false := by
  cases hc : c.isUpper with
  | false => rwa [toLower_of_isUpper_eq_false hc]
  | true =>
      rw [Bool.eq_false_iff]
      intro hupper
      have hlower := isLower_toLower_of_isUpper hc
      rw [isLower_of_isUpper hupper] at hlower
      cases hlower

theorem isAlpha_toLower (c : Char) : c.toLower.isAlpha = c.isAlpha := by
  cases hc : c.isUpper with
  | false => rw [toLower_of_isUpper_eq_false hc]
  | true =>
      change (c.toLower.isUpper || c.toLower.isLower) = (c.isUpper || c.isLower)
      rw [hc, isLower_toLower_of_isUpper hc, Bool.or_true, Bool.true_or]

theorem toLower_toLower (c : Char) : c.toLower.toLower = c.toLower :=
  toLower_of_isUpper_eq_false (isUpper_toLower c)

end FeatureGrant.Text
