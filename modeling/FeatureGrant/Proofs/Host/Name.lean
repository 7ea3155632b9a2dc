import FeatureGrant.Host.Name
import FeatureGrant.Proofs.Host.Folding
import FeatureGrant.Proofs.Host.Punycode
import FeatureGrant.Proofs.Result
import FeatureGrant.Proofs.Text.Pieces

/-!
# The ASCII form of a host name

The ASCII form of a name is ASCII and not empty.  Where the name has no capital
letter, no colon and no slash, and no character that looks like one, its ASCII
form has none either.
-/

namespace FeatureGrant.Host

open FeatureGrant.Text FeatureGrant.Url

/-- A settled character that does not look like a delimiter. -/
structure IsPlain (c : Char) : Prop where
  settled : IsSettled c
  notLike : delimiterLike.has c = false

/-- A text of settled ASCII characters. -/
def IsSettledAscii (s : List Char) : Prop :=
  ∀ c ∈ s, isAsciiChar c = true ∧ IsSettled c

instance (s : List Char) : Decidable (IsSettledAscii s) :=
  List.decidableBAll (fun c => isAsciiChar c = true ∧ IsSettled c) s

/-! ## Labels -/

theorem checkLength_eq_ok {label out : List Char}
    (h : checkLength label = .ok out) : out = label ∧ label ≠ [] := by
  rw [checkLength] at h
  split at h
  next hlength =>
    rw [Bool.and_eq_true, decide_eq_true_eq] at hlength
    exact ⟨(Except.ok.inj h).symm, List.ne_nil_of_length_pos hlength.1⟩
  next => exact nomatch h

theorem prepare_eq_ok {label prepared : List Char}
    (h : prepare label = .ok prepared) :
    prepared = compatibilityForm
      ((label.filter fun c => !(dropped.has c)).flatMap fold) := by
  rw [prepare] at h
  split at h
  next => exact nomatch h
  next =>
    split at h
    next =>
      split at h
      next => exact nomatch h
      next =>
        split at h
        next => exact (Except.ok.inj h).symm
        next => exact nomatch h
    next => exact (Except.ok.inj h).symm

theorem isSettled_of_mem_prepare {label prepared : List Char}
    (hlabel : ∀ c ∈ label, IsPlain c) (h : prepare label = .ok prepared)
    {c : Char} (hc : c ∈ prepared) : IsSettled c := by
  cases hascii : isAsciiChar c with
  | false => exact isSettled_of_foreign hascii
  | true =>
      obtain rfl := prepare_eq_ok h
      obtain ⟨e, he, hce⟩ := exists_of_mem_compatibilityForm hc hascii
      obtain ⟨d, hd, hed⟩ := List.mem_flatMap.mp he
      have hplain := hlabel d (List.mem_filter.mp hd).1
      exact isSettled_of_mem_decompose_fold hplain.settled hplain.notLike hed hce

theorem isSettledAscii_of_isAscii {s : List Char} (hascii : isAscii s = true)
    (hs : ∀ c ∈ s, IsSettled c) : IsSettledAscii s :=
  fun c hc => ⟨List.all_eq_true.mp hascii c hc, hs c hc⟩

theorem isSettledAscii_encode {s : List Char} (hs : ∀ c ∈ s, IsSettled c) :
    IsSettledAscii (Punycode.encode s) := by
  intro c hc
  rcases Punycode.mem_encode hc with ⟨hmem, hascii⟩ | rfl | hdigit
  · exact ⟨hascii, hs c hmem⟩
  · decide
  · have hcode : isAsciiChar c = true ∧ isSettledCode c.toNat = true := by
      rw [isSettledCode_iff, isAsciiChar, decide_eq_true_eq]
      rcases hdigit with hlower | hdigit
      · have hcode := isLower_iff_code.mp hlower
        omega
      · have hcode := isDigit_iff_code.mp hdigit
        omega
    exact ⟨hcode.1, isSettled_iff.mpr hcode.2⟩

theorem asciiLabel_eq_ok {label out : List Char} (hlabel : ∀ c ∈ label, IsPlain c)
    (h : asciiLabel label = .ok out) : IsSettledAscii out ∧ out ≠ [] := by
  rw [asciiLabel] at h
  split at h
  next hascii =>
    obtain ⟨rfl, hne⟩ := checkLength_eq_ok h
    exact ⟨isSettledAscii_of_isAscii hascii fun c hc => (hlabel c hc).settled, hne⟩
  next =>
    obtain ⟨prepared, hprepared, h⟩ := bind_eq_ok_iff.mp h
    have hsettled (c : Char) (hc : c ∈ prepared) : IsSettled c :=
      isSettled_of_mem_prepare hlabel hprepared hc
    split at h
    next hascii =>
      obtain ⟨rfl, hne⟩ := checkLength_eq_ok h
      exact ⟨isSettledAscii_of_isAscii hascii hsettled, hne⟩
    next =>
      split at h
      next => exact nomatch h
      next =>
        obtain ⟨rfl, hne⟩ := checkLength_eq_ok h
        refine ⟨fun c hc => ?_, hne⟩
        rcases List.mem_append.mp hc with hmarker | hencoded
        · have hall : IsSettledAscii ['x', 'n', '-', '-'] := by decide
          exact hall c hmarker
        · exact isSettledAscii_encode hsettled c hencoded

/-! ## Names -/

theorem asciiName_eq_ok {name out : List Char} (hname : ∀ c ∈ name, IsPlain c)
    (h : asciiName name = .ok out) : IsSettledAscii out ∧ out ≠ [] := by
  rw [asciiName] at h
  obtain ⟨encoded, hencoded, h⟩ := bind_eq_ok_iff.mp h
  obtain rfl := Except.ok.inj h
  obtain ⟨hlength, hlabels⟩ := mapM_eq_ok hencoded
  have hall : ∀ label ∈ encoded, IsSettledAscii label ∧ label ≠ [] := by
    intro label hlabel
    obtain ⟨written, hwritten, hok⟩ := hlabels label hlabel
    refine asciiLabel_eq_ok (fun c hc => ?_) hok
    have hpiece : written ∈ name.splitOnP isDot := by
      split at hwritten
      next => exact List.dropLast_subset _ hwritten
      next => exact hwritten
    exact hname c (mem_of_mem_splitOnP hpiece hc)
  constructor
  · intro c hc
    rcases List.mem_append.mp hc with hjoined | hdot
    · rcases mem_intercalate hjoined with rfl | ⟨label, hlabel, hc⟩
      · decide
      · exact (hall label hlabel).1 c hc
    · split at hdot
      next =>
        obtain rfl := List.mem_singleton.mp hdot
        decide
      next => exact nomatch hdot
  · split
    next => exact List.append_ne_nil_of_right_ne_nil _ (List.cons_ne_nil _ _)
    next hrooted =>
      rw [if_neg hrooted] at hlength
      cases encoded with
      | nil =>
          have hnone := List.length_eq_zero_iff.mp hlength.symm
          exact absurd hnone (List.splitOnP_ne_nil _ _)
      | cons label rest =>
          rw [List.append_nil]
          exact intercalate_ne_nil (hall label List.mem_cons_self).2

end FeatureGrant.Host
