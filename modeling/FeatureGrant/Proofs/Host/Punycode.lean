import FeatureGrant.Host.Punycode
import FeatureGrant.Text.Ascii

/-!
# The characters of encoded labels

An encoded text holds the ASCII characters of the text it encodes, a hyphen,
and the digits of numbers, which are small letters and figures.
-/

namespace FeatureGrant.Host.Punycode

open FeatureGrant.Text

/-- A small letter or a figure. -/
def IsDigit (c : Char) : Prop := c.isLower = true ∨ c.isDigit = true

instance (c : Char) : Decidable (IsDigit c) :=
  inferInstanceAs (Decidable (_ ∨ _))

theorem isDigit_digit {d : Nat} (hd : d < 36) : IsDigit (digit d) := by
  have hall : ∀ e ∈ List.range 36, IsDigit (digit e) := by decide
  exact hall d (List.mem_range.mpr hd)

theorem threshold_le (weight bias : Nat) : threshold weight bias ≤ 26 := by
  unfold threshold
  split
  · omega
  · split <;> omega

theorem isDigit_of_mem_numberDigits {bias weight n : Nat} {c : Char}
    (hc : c ∈ numberDigits bias weight n) : IsDigit c := by
  have hpos := threshold_pos
  have hle := threshold_le
  fun_induction numberDigits bias weight n with
  | case1 weight n t hlast =>
      rw [List.mem_singleton] at hc
      subst hc
      have := hle weight bias
      exact isDigit_digit (by omega)
  | case2 weight n t hmore ih =>
      rcases List.mem_cons.mp hc with rfl | hrest
      · have := hpos weight bias
        have := hle weight bias
        have := Nat.mod_lt (n - t) (show 0 < 36 - t by omega)
        exact isDigit_digit (by omega)
      · exact ih hrest

/-! ## What is written -/

/-- Only digits are written. -/
def Progress.WritesDigits (p : Progress) : Prop := ∀ c ∈ p.out, IsDigit c

theorem writesDigits_pass {basic m : Nat} {p : Progress} (hp : p.WritesDigits)
    (c : Char) : (pass basic m p c).WritesDigits := by
  unfold pass
  split
  next => exact hp
  next =>
    split
    next =>
      intro d hd
      rcases List.mem_append.mp hd with hout | hnumber
      · exact hp d hout
      · exact isDigit_of_mem_numberDigits hnumber
    next => exact hp

theorem writesDigits_foldl_pass {basic m : Nat} {p : Progress}
    (hp : p.WritesDigits) (s : List Char) :
    (s.foldl (pass basic m) p).WritesDigits := by
  induction s generalizing p with
  | nil => exact hp
  | cons c rest ih => exact ih (writesDigits_pass hp c)

theorem writesDigits_insertAll {s : List Char} {basic n : Nat} {others : List Nat}
    {p : Progress} (hp : p.WritesDigits) :
    (insertAll s basic others n p).WritesDigits := by
  induction others generalizing n p with
  | nil => exact hp
  | cons m rest ih =>
      apply ih
      intro c hc
      have hstart : Progress.WritesDigits
          { p with delta := p.delta + (m - n) * (p.placed + 1) } := hp
      exact writesDigits_foldl_pass hstart s c hc

/-- A character of an encoded text is an ASCII character of the text, a hyphen
or a digit. -/
theorem mem_encode {s : List Char} {c : Char} (hc : c ∈ encode s) :
    c ∈ s ∧ isAsciiChar c = true ∨ c = '-' ∨ IsDigit c := by
  rw [encode, List.mem_append, List.mem_append] at hc
  rcases hc with (hbasic | hhyphen) | hdigit
  · exact Or.inl (List.mem_filter.mp hbasic)
  · split at hhyphen
    next => exact nomatch hhyphen
    next => exact Or.inr (Or.inl (List.mem_singleton.mp hhyphen))
  · refine Or.inr (Or.inr (writesDigits_insertAll ?_ c hdigit))
    intro d hd
    exact absurd hd List.not_mem_nil

end FeatureGrant.Host.Punycode
