import FeatureGrant.Host.NameprepTables
import FeatureGrant.Proofs.Text.Compatibility
import FeatureGrant.Proofs.Text.LowerCase
import FeatureGrant.Url.Head

/-!
# Folding before decomposition

Some letters and symbols decompose to capital letters, and some to colons or
slashes.  Those of the first kind are all folded away before a name is
decomposed, and no folding ends in one of them; those of the second look like
delimiters.
-/

namespace FeatureGrant.Host

open FeatureGrant.Text FeatureGrant.Url

/-! ## Settled characters -/

/-- A character that is neither a capital letter of ASCII nor a colon nor a
slash. -/
def IsSettled (c : Char) : Prop := c.isUpper = false ∧ c ≠ ':' ∧ c ≠ '/'

instance (c : Char) : Decidable (IsSettled c) :=
  inferInstanceAs (Decidable (_ ∧ _))

/-- Whether a code point is neither a capital letter of ASCII nor a colon nor a
slash. -/
def isSettledCode (n : Nat) : Bool :=
  !(Nat.ble 0x41 n && Nat.ble n 0x5A) && !Nat.beq n 0x3A && !Nat.beq n 0x2F

theorem isSettledCode_iff {n : Nat} :
    isSettledCode n = true ↔
      ¬(0x41 ≤ n ∧ n ≤ 0x5A) ∧ n ≠ 0x3A ∧ n ≠ 0x2F := by
  rw [isSettledCode, Bool.and_eq_true, Bool.and_eq_true, Bool.not_eq_true',
    Bool.not_eq_true', Bool.not_eq_true', ← Bool.not_eq_true,
    ← Bool.not_eq_true, ← Bool.not_eq_true, Bool.and_eq_true, Nat.ble_eq,
    Nat.ble_eq, Nat.beq_eq, Nat.beq_eq, and_assoc]

theorem isSettled_iff {c : Char} :
    IsSettled c ↔ isSettledCode c.toNat = true := by
  have hne (d : Char) : c ≠ d ↔ c.toNat ≠ d.toNat :=
    not_congr ⟨congrArg Char.toNat, fun h => by
      rw [← Char.ofNat_toNat c, h, Char.ofNat_toNat]⟩
  have hupper : c.isUpper = false ↔ ¬(0x41 ≤ c.toNat ∧ c.toNat ≤ 0x5A) := by
    rw [← isUpper_iff_code, Bool.not_eq_true]
  rw [IsSettled, hne, hne, hupper, isSettledCode_iff]
  rfl

theorem isSettled_ofNat {n : Nat} (hn : isSettledCode n = true) :
    IsSettled (Char.ofNat n) := by
  rw [isSettled_iff, toNat_ofNat]
  split
  next => exact hn
  next => rfl

theorem isSettled_of_foreign {c : Char} (hc : isAsciiChar c = false) :
    IsSettled c := by
  have hcode : 0x80 ≤ c.toNat := Nat.le_of_not_lt (of_decide_eq_false hc)
  rw [isSettled_iff, isSettledCode_iff]
  omega

/-! ## Characters that decompose to capital letters -/

/-- Where the symbols are that foldings spell out. -/
def symbols : Intervals where
  toList := [(0x20A8, 0x2145), (0x3371, 0x33DD), (0x1D400, 0x1D7FF)]

/-- Whether a character may decompose to a capital letter, a colon or a
slash. -/
def mayUnsettle (c : Char) : Bool :=
  symbols.has c && (foldings.image? c).isSome || inRun c.toNat
    || c.toNat == 0x130 || delimiterLike.has c

theorem decompositions_settled :
    (decompositions.all fun image n =>
      image.all isSettledCode || mayUnsettle (Char.ofNat n)) = true := by
  decide +kernel

/-- A character that cannot unsettle decomposes to settled characters. -/
theorem isSettled_of_mem_decompose {c d : Char} (hc : mayUnsettle c = false)
    (hascii : isAsciiChar c = false) (hd : d ∈ decompose c) : IsSettled d := by
  have hascii : ¬c.toNat < 0x80 := of_decide_eq_false hascii
  rw [decompose, if_neg hascii] at hd
  split at hd
  next =>
    rw [List.mem_append] at hd
    rcases hd with hpair | hlast
    · obtain ⟨n, hn, rfl⟩ := List.mem_map.mp hpair
      apply isSettled_ofNat
      rw [isSettledCode_iff]
      rcases List.mem_pair.mp hn with rfl | rfl <;> omega
    · split at hlast
      next => exact nomatch hlast
      next =>
        rw [List.mem_singleton.mp hlast]
        apply isSettled_ofNat
        rw [isSettledCode_iff]
        omega
  next =>
    cases himage : decompositions.image? c with
    | none =>
        rw [himage] at hd
        obtain rfl := List.mem_singleton.mp hd
        exact isSettled_of_foreign (decide_eq_false hascii)
    | some image =>
        rw [himage] at hd
        obtain ⟨codes, hcodes, rfl⟩ :=
          ImageTable.of_image?_eq_some decompositions_settled himage
        rw [Char.ofNat_toNat, hc, Bool.or_false, List.all_eq_true] at hcodes
        obtain ⟨n, hn, rfl⟩ := List.mem_map.mp hd
        exact isSettled_ofNat (hcodes n hn)

/-! ## Folding -/

theorem foldings_settled :
    (foldings.all fun image _ => image.all fun n =>
      Nat.blt n 0x80 && isSettledCode n
        || isForeignCode n && !(mayUnsettle (Char.ofNat n))) = true := by
  decide +kernel

theorem symbols_avoidsForms : symbols.avoidsForms = true := by
  decide

theorem delimiterLike_avoidsForms : delimiterLike.avoidsForms = true := by
  decide

theorem mayUnsettle_of_isForm {c : Char} (h : IsForm c)
    (hascii : isAsciiChar c = false) : mayUnsettle c = false := by
  obtain ⟨hdot, hrun⟩ := h.isLower.not_capital (of_decide_eq_false hascii)
  rw [mayUnsettle, h.has_eq_false symbols_avoidsForms, hrun,
    h.has_eq_false delimiterLike_avoidsForms, beq_false_of_ne hdot]
  rfl

/-- What a character is folded to is settled, or cannot unsettle. -/
theorem mem_fold {c d : Char} (hc : IsSettled c) (hlike : delimiterLike.has c = false)
    (hd : d ∈ fold c) :
    isAsciiChar d = true ∧ IsSettled d ∨
      isAsciiChar d = false ∧ mayUnsettle d = false := by
  rw [fold] at hd
  split at hd
  next hascii =>
    rw [List.mem_singleton,
      toLower_of_isUpper_eq_false hc.1] at hd
    rw [hd]
    exact Or.inl ⟨decide_eq_true hascii, hc⟩
  next hascii =>
    cases himage : foldings.image? c with
    | some image =>
        rw [himage] at hd
        obtain ⟨codes, hcodes, rfl⟩ :=
          ImageTable.of_image?_eq_some foldings_settled himage
        obtain ⟨n, hn, rfl⟩ := List.mem_map.mp hd
        have hcode := List.all_eq_true.mp hcodes n hn
        rw [Bool.or_eq_true, Bool.and_eq_true, Bool.and_eq_true, Nat.blt_eq,
          Bool.not_eq_true'] at hcode
        rcases hcode with ⟨hsmall, hsettled⟩ | ⟨hforeign, hsafe⟩
        · refine Or.inl ⟨?_, isSettled_ofNat hsettled⟩
          rw [isAsciiChar, decide_eq_true_eq, toNat_ofNat]
          split <;> omega
        · exact Or.inr ⟨isAsciiChar_ofNat hforeign, hsafe⟩
    | none =>
        rw [himage] at hd
        rcases mem_lowerChar hd with hform | ⟨rfl, hlower⟩
        · cases hd : isAsciiChar d with
          | true =>
              have hletter := hform.isLower_of_lt (of_decide_eq_true hd)
              have hupper : d.isUpper = false :=
                Bool.eq_false_iff.mpr fun h =>
                  Bool.eq_false_iff.mp (isLower_of_isUpper h) hletter
              refine Or.inl ⟨rfl, hupper, ?_, ?_⟩
              · rintro rfl
                exact absurd hletter (by decide)
              · rintro rfl
                exact absurd hletter (by decide)
          | false => exact Or.inr ⟨rfl, mayUnsettle_of_isForm hform hd⟩
        · obtain ⟨hdot, hrun⟩ := hlower.not_capital hascii
          refine Or.inr ⟨decide_eq_false hascii, ?_⟩
          rw [mayUnsettle, himage, hrun, hlike, beq_false_of_ne hdot,
            Option.isSome_none, Bool.and_false]
          rfl

/-- A character is folded and decomposed to settled ones. -/
theorem isSettled_of_mem_decompose_fold {c d e : Char} (hc : IsSettled c)
    (hlike : delimiterLike.has c = false) (hd : d ∈ fold c) (he : e ∈ decompose d) :
    IsSettled e := by
  rcases mem_fold hc hlike hd with ⟨hascii, hsettled⟩ | ⟨hascii, hsafe⟩
  · rw [decompose, if_pos (of_decide_eq_true hascii), List.mem_singleton] at he
    rw [he]
    exact hsettled
  · exact isSettled_of_mem_decompose hsafe hascii he

end FeatureGrant.Host
