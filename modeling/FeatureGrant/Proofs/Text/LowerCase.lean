import FeatureGrant.Proofs.Text.Letters
import FeatureGrant.Text.Ascii
import FeatureGrant.Text.LowerCase
import Mathlib.Data.List.Basic

/-!
# Lower-case text

Lower-casing a text twice is lower-casing it once, and what it brings into a
text is lower-case letters only.

The letters come from runs of capitals, whose forms follow at a constant
distance.  No form lies in a run again.
-/

namespace FeatureGrant.Text

/-! ## Runs of capital letters -/

/-- A run of capital letters: every `step`-th code point from `first` to
`last`, with the forms from `form` on. -/
structure CapitalRun where
  first : Nat
  last : Nat
  step : Nat
  form : Nat
  deriving DecidableEq

namespace CapitalRun

def ofRow (row : Nat × Nat × Nat × Nat) : CapitalRun :=
  ⟨row.1, row.2.1, row.2.2.1, row.2.2.2⟩

/-- All runs. -/
def all : List CapitalRun := capitalRuns.map ofRow

/-- Whether the run has a code point. -/
def has (r : CapitalRun) (n : Nat) : Bool :=
  Nat.ble r.first n && Nat.ble n r.last && Nat.beq ((n - r.first) % r.step) 0

theorem has_iff {r : CapitalRun} {n : Nat} :
    r.has n = true ↔
      r.first ≤ n ∧ n ≤ r.last ∧ (n - r.first) % r.step = 0 := by
  rw [has, Bool.and_eq_true, Bool.and_eq_true, Nat.ble_eq, Nat.ble_eq, Nat.beq_eq,
    and_assoc]

/-- The form of a code point of the run. -/
def formOf (r : CapitalRun) (n : Nat) : Nat := r.form + (n - r.first)

def lastForm (r : CapitalRun) : Nat := r.form + (r.last - r.first)

theorem formOf_mem {r : CapitalRun} {n : Nat} (h : r.has n = true) :
    r.form ≤ r.formOf n ∧ r.formOf n ≤ r.lastForm := by
  obtain ⟨hfirst, hlast, -⟩ := has_iff.mp h
  unfold formOf lastForm
  omega

/-- Whether the forms of `r` lie outside `r'`: before it, behind it or, where
`r'` has every second code point, between these. -/
def formsMiss (r r' : CapitalRun) : Bool :=
  Nat.blt r'.last r.form || Nat.blt r.lastForm r'.first
    || (r'.step == 2 && r.form % 2 != r'.first % 2
      && (r.step == 2 || r.first == r.last))

theorem has_formOf_eq_false {r r' : CapitalRun} (hmiss : r.formsMiss r' = true)
    {n : Nat} (hn : r.has n = true) : r'.has (r.formOf n) = false := by
  obtain ⟨hfirst, hlast, hstep⟩ := has_iff.mp hn
  refine Bool.eq_false_iff.mpr fun hn' => ?_
  obtain ⟨hfirst', hlast', hstep'⟩ := has_iff.mp hn'
  simp only [formsMiss, Bool.or_eq_true, Bool.and_eq_true, Nat.blt_eq,
    beq_iff_eq, bne_iff_ne] at hmiss
  unfold formOf at hfirst' hlast' hstep'
  unfold lastForm at hmiss
  rcases hmiss with (hbefore | hbehind) | ⟨⟨htwo', hparity⟩, htwo | hone⟩
  · omega
  · omega
  · rw [htwo'] at hstep'
    rw [htwo] at hstep
    omega
  · rw [htwo'] at hstep'
    omega

theorem all_formsMiss :
    (all.all fun r => all.all r.formsMiss) = true := by
  decide +kernel

/-- Whether the forms of a run are ASCII letters in lower case, or characters
beyond ASCII other than the capital I with a dot. -/
def hasLetterForms (r : CapitalRun) : Bool :=
  (Nat.ble 0x61 r.form && Nat.ble r.lastForm 0x7A)
    || (Nat.ble 0x80 r.form
      && (Nat.blt r.lastForm 0x130 || Nat.blt 0x130 r.form)
      && (Nat.blt r.lastForm 0xD800
        || (Nat.blt 0xDFFF r.form && Nat.blt r.lastForm 0x110000)))

theorem all_hasLetterForms : all.all hasLetterForms = true := by
  decide

theorem formOf_letter {r : CapitalRun} (hr : r ∈ all) {n : Nat}
    (hn : r.has n = true) :
    (r.formOf n).isValidChar ∧
      (0x61 ≤ r.formOf n ∧ r.formOf n ≤ 0x7A ∨
        0x80 ≤ r.formOf n ∧ r.formOf n ≠ 0x130) := by
  have hforms := List.all_eq_true.mp all_hasLetterForms r hr
  have hbetween := formOf_mem hn
  simp only [hasLetterForms, Bool.or_eq_true, Bool.and_eq_true, Nat.blt_eq,
    Nat.ble_eq] at hforms
  unfold Nat.isValidChar
  omega

end CapitalRun

/-- Whether a code point lies in a run. -/
def inRun (n : Nat) : Bool := CapitalRun.all.any (·.has n)

/-- The forms lie in no run. -/
theorem inRun_formOf {r : CapitalRun} (hr : r ∈ CapitalRun.all) {n : Nat}
    (hn : r.has n = true) : inRun (r.formOf n) = false := by
  rw [inRun, List.any_eq_false]
  intro r' hr'
  have hmiss := List.all_eq_true.mp (List.all_eq_true.mp CapitalRun.all_formsMiss r hr)
    r' hr'
  rw [CapitalRun.has_formOf_eq_false hmiss hn]
  exact Bool.false_ne_true

/-! ## Single characters -/

theorem lowerChar_of_lt {c : Char} (hc : c.toNat < 0x80) :
    lowerChar c = [c.toLower] := by
  rw [lowerChar, if_pos hc]

theorem lowerChar_of_inRun {c : Char} (hascii : ¬c.toNat < 0x80)
    (hdot : c.toNat ≠ 0x130) (hrun : inRun c.toNat = true) :
    ∃ r ∈ CapitalRun.all, r.has c.toNat = true ∧
      lowerChar c = [Char.ofNat (r.formOf c.toNat)] := by
  rw [lowerChar, if_neg hascii, if_neg hdot]
  split
  next first last step form hfind =>
    have hmem := List.mem_of_find?_eq_some hfind
    have hhas := List.find?_some hfind
    simp only [Bool.and_eq_true, decide_eq_true_eq, beq_iff_eq] at hhas
    exact ⟨.ofRow (first, last, step, form), List.mem_map_of_mem hmem,
      CapitalRun.has_iff.mpr ⟨hhas.1.1, hhas.1.2, hhas.2⟩, rfl⟩
  next hnone =>
    obtain ⟨r, hr, hn⟩ := List.any_eq_true.mp hrun
    obtain ⟨hfirst, hlast, hstep⟩ := CapitalRun.has_iff.mp hn
    obtain ⟨row, hrow, rfl⟩ := List.mem_map.mp hr
    refine absurd ?_ (List.find?_eq_none.mp hnone row hrow)
    simp only [Bool.and_eq_true, decide_eq_true_eq, beq_iff_eq]
    exact ⟨⟨hfirst, hlast⟩, hstep⟩

theorem lowerChar_of_inRun_eq_false {c : Char} (hascii : ¬c.toNat < 0x80)
    (hdot : c.toNat ≠ 0x130) (hrun : inRun c.toNat = false) :
    lowerChar c = [c] := by
  rw [lowerChar, if_neg hascii, if_neg hdot]
  split
  next first last step form hfind =>
    have hmem := List.mem_of_find?_eq_some hfind
    have hhas := List.find?_some hfind
    simp only [Bool.and_eq_true, decide_eq_true_eq, beq_iff_eq] at hhas
    have hnot := List.any_eq_false.mp hrun (.ofRow (first, last, step, form))
      (List.mem_map_of_mem hmem)
    exact absurd (CapitalRun.has_iff.mpr ⟨hhas.1.1, hhas.1.2, hhas.2⟩) hnot
  next => rfl

/-- A character that lower-casing leaves as it is. -/
def IsLower (c : Char) : Prop := lowerChar c = [c]

instance (c : Char) : Decidable (IsLower c) :=
  inferInstanceAs (Decidable (lowerChar c = [c]))

/-- A form that lower-casing gives to other characters. -/
inductive IsForm (c : Char) : Prop
  | ascii (h : c.isLower = true)
  | dot (h : c.toNat = 0x307)
  | finalSigma (h : c.toNat = 0x3C2)
  | run (r : CapitalRun) (n : Nat) (hr : r ∈ CapitalRun.all)
      (hn : r.has n = true) (hc : c.toNat = r.formOf n)

/-- An ASCII form is a letter. -/
theorem IsForm.isLower_of_lt {c : Char} (h : IsForm c) (hc : c.toNat < 0x80) :
    c.isLower = true := by
  cases h with
  | ascii h => exact h
  | dot h => omega
  | finalSigma h => omega
  | run r n hr hn hcode =>
      have hletter := (CapitalRun.formOf_letter hr hn).2
      rw [isLower_iff_code]
      omega

theorem isLower_of_not_isUpper {c : Char} (hc : c.toNat < 0x80)
    (hupper : c.isUpper = false) : IsLower c := by
  rw [IsLower, lowerChar_of_lt hc,
    toLower_of_isUpper_eq_false hupper]

theorem IsLower.isUpper_eq_false {c : Char} (h : IsLower c) :
    c.isUpper = false := by
  by_cases hc : c.toNat < 0x80
  · rw [IsLower, lowerChar_of_lt hc] at h
    have hsame : c.toLower = c := (List.cons.inj h).1
    rw [← hsame]
    exact isUpper_toLower c
  · refine Bool.eq_false_iff.mpr fun hupper => ?_
    have hlast := (isUpper_iff_code.mp hupper).2
    omega

/-- Forms are in lower case. -/
theorem IsForm.isLower {c : Char} (h : IsForm c) : IsLower c := by
  by_cases hascii : c.toNat < 0x80
  · have hlower := h.isLower_of_lt hascii
    refine isLower_of_not_isUpper hascii ?_
    cases hupper : c.isUpper with
    | false => rfl
    | true => exact absurd hlower (Bool.eq_false_iff.mp (isLower_of_isUpper hupper))
  · cases h with
    | ascii h =>
        have hlast := (isLower_iff_code.mp h).2
        omega
    | dot h =>
        rw [← Char.ofNat_toNat c, h]
        decide
    | finalSigma h =>
        rw [← Char.ofNat_toNat c, h]
        decide
    | run r n hr hn hcode =>
        refine lowerChar_of_inRun_eq_false hascii ?_ ?_
        · have hletter := (CapitalRun.formOf_letter hr hn).2
          omega
        · rw [hcode]
          exact inRun_formOf hr hn

/-- Whether all intervals of a set lie beyond the Greek letters, and none meets
the forms of a run. -/
def Intervals.avoidsForms (t : Intervals) : Bool :=
  t.toList.all fun (first, last) => Nat.ble 0x400 first
    && CapitalRun.all.all fun r => Nat.blt r.lastForm first || Nat.blt last r.form

theorem Intervals.has_eq_false_of_lt {t : Intervals} (ht : t.avoidsForms = true)
    {c : Char} (hc : c.toNat < 0x400) : t.has c = false := by
  rw [Intervals.has, List.any_eq_false]
  rintro ⟨first, last⟩ hmem
  have hbehind := List.all_eq_true.mp ht (first, last) hmem
  rw [Bool.and_eq_true, Nat.ble_eq] at hbehind
  rw [Bool.and_eq_true, decide_eq_true_eq]
  omega

theorem IsForm.has_eq_false {t : Intervals} (ht : t.avoidsForms = true) {c : Char}
    (h : IsForm c) : t.has c = false := by
  cases h with
  | ascii h =>
      have hlast := (isLower_iff_code.mp h).2
      exact Intervals.has_eq_false_of_lt ht (by omega)
  | dot h => exact Intervals.has_eq_false_of_lt ht (by omega)
  | finalSigma h => exact Intervals.has_eq_false_of_lt ht (by omega)
  | run r n hr hn hcode =>
      rw [Intervals.has, List.any_eq_false]
      rintro ⟨first, last⟩ hmem
      have hbehind := List.all_eq_true.mp ht (first, last) hmem
      simp only [Bool.and_eq_true, List.all_eq_true, Bool.or_eq_true,
        Nat.blt_eq] at hbehind
      rw [Bool.and_eq_true, decide_eq_true_eq, decide_eq_true_eq]
      have hbetween := CapitalRun.formOf_mem hn
      rcases hbehind.2 r hr with hbefore | hafter <;> omega

/-- A character is replaced by forms, or is in lower case. -/
theorem mem_lowerChar {c d : Char} (hd : d ∈ lowerChar c) :
    IsForm d ∨ d = c ∧ IsLower c := by
  by_cases hascii : c.toNat < 0x80
  · rw [lowerChar_of_lt hascii, List.mem_singleton] at hd
    cases hupper : c.isUpper with
    | false =>
        rw [toLower_of_isUpper_eq_false hupper] at hd
        exact Or.inr ⟨hd, isLower_of_not_isUpper hascii hupper⟩
    | true =>
        refine Or.inl (.ascii ?_)
        rw [hd]
        exact isLower_toLower_of_isUpper hupper
  · by_cases hdot : c.toNat = 0x130
    · rw [lowerChar, if_neg hascii, if_pos hdot] at hd
      rcases List.mem_pair.mp hd with rfl | rfl
      · exact Or.inl (.ascii rfl)
      · exact Or.inl (.dot rfl)
    · cases hrun : inRun c.toNat with
      | true =>
          obtain ⟨r, hr, hn, hlower⟩ := lowerChar_of_inRun hascii hdot hrun
          rw [hlower, List.mem_singleton] at hd
          refine Or.inl (.run r c.toNat hr hn ?_)
          rw [hd, toNat_ofNat, if_pos (CapitalRun.formOf_letter hr hn).1]
      | false =>
          have hlower := lowerChar_of_inRun_eq_false hascii hdot hrun
          rw [hlower, List.mem_singleton] at hd
          exact Or.inr ⟨hd, hlower⟩

theorem IsLower.not_capital {c : Char} (h : IsLower c) (hascii : ¬c.toNat < 0x80) :
    c.toNat ≠ 0x130 ∧ inRun c.toNat = false := by
  have hdot : c.toNat ≠ 0x130 := by
    intro hdot
    rw [IsLower, lowerChar, if_neg hascii, if_pos hdot] at h
    exact nomatch (List.cons.inj h).2
  refine ⟨hdot, ?_⟩
  cases hrun : inRun c.toNat with
  | false => rfl
  | true =>
      obtain ⟨r, hr, hn, hlower⟩ := lowerChar_of_inRun hascii hdot hrun
      rw [IsLower, hlower] at h
      have hcode : c.toNat = r.formOf c.toNat := by
        have hsame := congrArg Char.toNat (List.cons.inj h).1
        rw [toNat_ofNat, if_pos (CapitalRun.formOf_letter hr hn).1] at hsame
        exact hsame.symm
      rw [← hrun, hcode]
      exact inRun_formOf hr hn

/-! ## Texts -/

theorem mem_lowerAfter {c : Char} {before s : List Char}
    (hc : c ∈ lowerAfter before s) : IsLower c ∧ (c ∈ s ∨ IsForm c) := by
  induction s generalizing before with
  | nil => exact nomatch hc
  | cons d rest ih =>
      rw [lowerAfter, List.mem_append] at hc
      rcases hc with hfirst | hrest
      · have hd : IsForm c ∨ c = d ∧ IsLower d := by
          split at hfirst
          next hsigma =>
            left
            rw [List.mem_singleton] at hfirst
            subst hfirst
            split
            next => exact .finalSigma rfl
            next =>
              exact .run (.ofRow (0x3A3, 0x3AB, 1, 0x3C3)) 0x3A3
                (by decide) rfl rfl
          next => exact mem_lowerChar hfirst
        rcases hd with hform | ⟨rfl, hlower⟩
        · exact ⟨hform.isLower, Or.inr hform⟩
        · exact ⟨hlower, Or.inl List.mem_cons_self⟩
      · obtain ⟨hlower, hs⟩ := ih hrest
        exact ⟨hlower, hs.imp (List.mem_cons_of_mem d) id⟩

theorem isLower_of_mem_lower {c : Char} {s : List Char} (hc : c ∈ lower s) :
    IsLower c :=
  (mem_lowerAfter hc).1

theorem mem_or_isForm_of_mem_lower {c : Char} {s : List Char}
    (hc : c ∈ lower s) : c ∈ s ∨ IsForm c :=
  (mem_lowerAfter hc).2

theorem IsLower.ne_sigma {c : Char} (h : IsLower c) : c.toNat ≠ 0x3A3 := by
  intro hsigma
  rw [← Char.ofNat_toNat c, hsigma] at h
  exact absurd h (by decide)

theorem mem_lowerAfter_of_mem {c : Char} {before s : List Char} (hc : c ∈ s)
    (hlower : IsLower c) : c ∈ lowerAfter before s := by
  induction s generalizing before with
  | nil => exact nomatch hc
  | cons d rest ih =>
      rw [lowerAfter]
      rcases List.mem_cons.mp hc with rfl | hc
      · rw [if_neg hlower.ne_sigma, hlower]
        exact List.mem_append_left _ List.mem_cons_self
      · exact List.mem_append_right _ (ih hc)

/-- Characters in lower case stay where they are. -/
theorem mem_lower_of_mem {c : Char} {s : List Char} (hc : c ∈ s)
    (hlower : IsLower c) : c ∈ lower s :=
  mem_lowerAfter_of_mem hc hlower

theorem lowerAfter_eq_self {before s : List Char} (hs : ∀ c ∈ s, IsLower c) :
    lowerAfter before s = s := by
  induction s generalizing before with
  | nil => rfl
  | cons c rest ih =>
      have hc : IsLower c := hs c List.mem_cons_self
      rw [lowerAfter, if_neg hc.ne_sigma, hc,
        ih fun d hd => hs d (List.mem_cons_of_mem c hd)]
      rfl

theorem lower_eq_self {s : List Char} (hs : ∀ c ∈ s, IsLower c) : lower s = s :=
  lowerAfter_eq_self hs

/-- Lower-casing twice is lower-casing once. -/
theorem lower_lower (s : List Char) : lower (lower s) = lower s :=
  lower_eq_self fun _ => isLower_of_mem_lower

/-- ASCII letters are lower-cased one by one, whatever follows them. -/
theorem lowerAfter_append {before s : List Char} (hs : isAscii s = true)
    (t : List Char) : lowerAfter before (s ++ t) =
      s.map Char.toLower ++ lowerAfter (s.reverse ++ before) t := by
  induction s generalizing before with
  | nil => rfl
  | cons c rest ih =>
      rw [isAscii, List.all_cons, Bool.and_eq_true] at hs
      have hc : c.toNat < 0x80 := of_decide_eq_true hs.1
      have hsigma : c.toNat ≠ 0x3A3 := by omega
      rw [List.cons_append, lowerAfter, if_neg hsigma, lowerChar_of_lt hc, ih hs.2,
        List.reverse_cons, List.append_assoc]
      rfl

theorem lower_append {s : List Char} (hs : isAscii s = true) (t : List Char) :
    lower (s ++ t) = s.map Char.toLower ++ lowerAfter s.reverse t := by
  rw [lower, lowerAfter_append hs, List.append_nil]

theorem lower_eq_map {s : List Char} (hs : isAscii s = true) :
    lower s = s.map Char.toLower := by
  have hlower := lower_append hs []
  rw [List.append_nil] at hlower
  rw [hlower]
  exact List.append_nil _

theorem lowerChar_ne_nil (c : Char) : lowerChar c ≠ [] := by
  rw [lowerChar]
  split
  next => exact List.cons_ne_nil _ _
  next =>
    split
    next => exact List.cons_ne_nil _ _
    next => split <;> exact List.cons_ne_nil _ _

theorem lowerAfter_eq_nil_iff {before s : List Char} :
    lowerAfter before s = [] ↔ s = [] := by
  cases s with
  | nil => exact ⟨fun _ => rfl, fun _ => rfl⟩
  | cons c rest =>
      refine ⟨fun h => absurd h ?_, fun h => nomatch h⟩
      rw [lowerAfter]
      refine List.append_ne_nil_of_left_ne_nil ?_ _
      split
      next => exact List.cons_ne_nil _ _
      next => exact lowerChar_ne_nil c

end FeatureGrant.Text
