import FeatureGrant.Proofs.Host.Folding
import FeatureGrant.Proofs.Result
import FeatureGrant.Proofs.Url.Host
import FeatureGrant.Text.Blank
import Mathlib.Data.Nat.Digits.Defs

/-!
# Reading the head of a URL

What a head that was read is like, and what reads as a given head: a scheme, a
doubled slash, and a host and a port of characters that may stand there.
-/

namespace FeatureGrant.Url

open FeatureGrant.Host FeatureGrant.Text

/-! ## Blank and ignored characters -/

theorem trim_eq_self {s : List Char} (hhead : ∀ c ∈ s.head?, isBlank c = false)
    (hlast : ∀ c ∈ s.getLast?, isBlank c = false) : trim s = s := by
  have hdrop {t : List Char} (ht : ∀ c ∈ t.head?, isBlank c = false) :
      t.dropWhile isBlank = t := by
    cases t with
    | nil => rfl
    | cons c rest =>
        have hc : isBlank c = false := ht c rfl
        rw [List.dropWhile_cons_of_neg (Bool.eq_false_iff.mp hc)]
  rw [trim, hdrop hhead, hdrop (by rwa [List.head?_reverse]), List.reverse_reverse]

theorem trim_trim (s : List Char) : trim (trim s) = trim s := by
  have hhead : ∀ c ∈ (s.dropWhile isBlank).head?, isBlank c = false := by
    intro c hc
    have h := List.head?_dropWhile_not isBlank s
    rw [Option.mem_def.mp hc] at h
    exact h
  apply trim_eq_self
  · intro c hc
    obtain ⟨blanks, hblanks⟩ : trim s <+: s.dropWhile isBlank := by
      rw [← List.reverse_suffix, trim, List.reverse_reverse]
      exact List.dropWhile_suffix isBlank
    apply hhead c
    rw [← hblanks, List.head?_append, Option.mem_def.mp hc]
    rfl
  · intro c hc
    rw [trim, List.getLast?_reverse] at hc
    have h := List.head?_dropWhile_not isBlank (s.dropWhile isBlank).reverse
    rw [Option.mem_def.mp hc] at h
    exact h

theorem mem_of_mem_trim {s : List Char} {c : Char} (hc : c ∈ trim s) : c ∈ s := by
  have hdrop {t : List Char} (ht : c ∈ t.dropWhile isBlank) : c ∈ t :=
    (List.dropWhile_sublist _).subset ht
  rw [trim, List.mem_reverse] at hc
  exact hdrop (List.mem_reverse.mp (hdrop hc))

theorem mem_trim_of_mem {s : List Char} {c : Char} (hc : c ∈ s)
    (hblank : isBlank c = false) : c ∈ trim s := by
  have hdrop {t : List Char} (ht : c ∈ t) : c ∈ t.dropWhile isBlank := by
    rw [← List.takeWhile_append_dropWhile (p := isBlank) (l := t), List.mem_append]
      at ht
    refine ht.resolve_left fun h => ?_
    exact nomatch hblank.symm.trans (List.mem_takeWhile_imp h)
  rw [trim, List.mem_reverse]
  exact hdrop (List.mem_reverse.mpr (hdrop hc))

/-- Whether a character is ignored wherever it stands. -/
def isIgnored (c : Char) : Bool := c == '\t' || c == '\r' || c == '\n'

theorem isIgnored_of_mem_clean {s : List Char} {c : Char} (hc : c ∈ clean s) :
    isIgnored c = false := by
  have hkept := (List.mem_filter.mp hc).2
  simp only [Bool.and_eq_true, bne_iff_ne] at hkept
  rw [isIgnored, beq_false_of_ne hkept.1.1, beq_false_of_ne hkept.1.2,
    beq_false_of_ne hkept.2]
  rfl

theorem clean_eq_self {s : List Char} (hhead : ∀ c ∈ s.head?, 0x20 < c.toNat)
    (hs : ∀ c ∈ s, isIgnored c = false) : clean s = s := by
  have hdrop : s.dropWhile (·.toNat ≤ 0x20) = s := by
    cases s with
    | nil => rfl
    | cons c rest =>
        have hc : 0x20 < c.toNat := hhead c rfl
        exact List.dropWhile_cons_of_neg (by rw [decide_eq_true_eq]; omega)
  rw [clean, hdrop, List.filter_eq_self]
  intro c hc
  have hkept := hs c hc
  simp only [isIgnored, Bool.or_eq_false_iff, beq_eq_false_iff_ne] at hkept
  simp only [Bool.and_eq_true, bne_iff_ne]
  exact hkept

/-! ## Schemes -/

/-- A scheme in lower case: a letter, and then letters, digits and three
marks. -/
structure IsScheme (s : List Char) : Prop where
  letter : s.head?.any (·.isAlpha) = true
  chars : s.all isSchemeChar = true
  lower : s.map Char.toLower = s

theorem IsScheme.ne_nil {scheme : List Char} (h : IsScheme scheme) :
    scheme ≠ [] := by
  rintro rfl
  exact nomatch h.letter

theorem IsScheme.colon_not_mem {scheme : List Char} (h : IsScheme scheme) :
    ':' ∉ scheme := fun hmem =>
  nomatch List.all_eq_true.mp h.chars ':' hmem

theorem IsScheme.isIgnored_eq_false {scheme : List Char} (h : IsScheme scheme)
    {c : Char} (hc : c ∈ scheme) : isIgnored c = false := by
  have hchar := List.all_eq_true.mp h.chars c hc
  refine Bool.eq_false_iff.mpr fun hignored => ?_
  simp only [isIgnored, Bool.or_eq_true, beq_iff_eq] at hignored
  rcases hignored with (rfl | rfl) | rfl <;> exact absurd hchar (by decide)

theorem isSchemeChar_of_isAlpha {c : Char} (hc : c.isAlpha = true) :
    isSchemeChar c = true := by
  rw [isSchemeChar, Char.isAlphanum, hc]
  rfl

theorem code_of_isAlpha {c : Char} (hc : c.isAlpha = true) :
    isAsciiChar c = true ∧ 0x20 < c.toNat := by
  have hcode := isAlpha_iff_code.mp hc
  rw [isAsciiChar, decide_eq_true_eq]
  omega

theorem isAsciiChar_of_isSchemeChar {c : Char} (hc : isSchemeChar c = true) :
    isAsciiChar c = true := by
  simp only [isSchemeChar, Char.isAlphanum, Bool.or_eq_true, beq_iff_eq] at hc
  rcases hc with (((halpha | hdigit) | rfl) | rfl) | rfl
  · exact (code_of_isAlpha halpha).1
  · exact isAsciiChar_of_isHexDigit (isHexDigit_of_isDigit hdigit)
  · rfl
  · rfl
  · rfl

theorem isSchemeChar_toLower (c : Char) : isSchemeChar c.toLower = isSchemeChar c :=
  forall_toLower (P := fun c d => isSchemeChar d = isSchemeChar c) (fun _ => rfl)
    (by decide) c

theorem splitScheme_of_letter {c : Char} {scheme rest : List Char}
    (hletter : c.isAlpha = true) (hchars : scheme.all isSchemeChar = true) :
    splitScheme (c :: scheme ++ ':' :: rest) = ((c :: scheme).map Char.toLower, rest) := by
  have hcolon : ':' ∉ c :: scheme := by
    intro hmem
    rcases List.mem_cons.mp hmem with rfl | hmem
    · exact nomatch hletter
    · exact nomatch List.all_eq_true.mp hchars ':' hmem
  rw [splitScheme, cut_append_cons hcolon]
  dsimp only
  rw [hletter, hchars]
  rfl

theorem splitScheme_append {scheme : List Char} (h : IsScheme scheme)
    (rest : List Char) : splitScheme (scheme ++ ':' :: rest) = (scheme, rest) := by
  obtain ⟨hletter, hchars, hlower⟩ := h
  cases scheme with
  | nil => exact nomatch hletter
  | cons c scheme =>
      rw [List.all_cons, Bool.and_eq_true] at hchars
      rw [splitScheme_of_letter hletter hchars.2, hlower]

/-- A text starts with a scheme, or is not split. -/
theorem splitScheme_cases (s : List Char) :
    IsScheme (splitScheme s).1 ∧ (∀ c ∈ (splitScheme s).2, c ∈ s) ∨
      splitScheme s = ([], s) := by
  rcases cut_cases ':' s with ⟨-, heq⟩ | ⟨front, rest, -, rfl, heq⟩
  · right
    rw [splitScheme, heq]
    cases s <;> rfl
  · cases front with
    | nil =>
        right
        rw [splitScheme, heq]
    | cons c scheme =>
        cases hvalid : c.isAlpha && scheme.all isSchemeChar with
        | false =>
            right
            rw [splitScheme, heq]
            dsimp only
            rw [hvalid]
            rfl
        | true =>
            left
            obtain ⟨hletter, hchars⟩ := Bool.and_eq_true_iff.mp hvalid
            have hlower : isSchemeChar ∘ Char.toLower = isSchemeChar :=
              funext isSchemeChar_toLower
            rw [splitScheme_of_letter hletter hchars]
            refine ⟨⟨?_, ?_, ?_⟩, fun d hd => ?_⟩
            · rw [List.map_cons, List.head?_cons, Option.any_some,
                isAlpha_toLower]
              exact hletter
            · rw [List.all_map, hlower, List.all_cons, hchars,
                isSchemeChar_of_isAlpha hletter]
              rfl
            · rw [List.map_map]
              exact List.map_congr_left fun d _ => toLower_toLower d
            · exact List.mem_append_right _ (List.mem_cons_of_mem ':' hd)

/-! ## Authorities -/

/-- Whether a character ends an authority. -/
def endsAuthority (c : Char) : Bool := c == '/' || c == '?' || c == '#'

theorem mem_authority {s : List Char} {c : Char} (hc : c ∈ authority s) :
    c ∈ s ∧ endsAuthority c = false := by
  rw [authority.eq_def] at hc
  split at hc
  next rest =>
    have hstop := List.mem_takeWhile_imp hc
    have hmem := (List.takeWhile_sublist _).subset hc
    simp only [Bool.and_eq_true, bne_iff_ne] at hstop
    refine ⟨List.mem_cons_of_mem _ (List.mem_cons_of_mem _ hmem), ?_⟩
    rw [endsAuthority, beq_false_of_ne hstop.1.1, beq_false_of_ne hstop.1.2,
      beq_false_of_ne hstop.2]
    rfl
  next => exact nomatch hc

theorem authority_slashes {s : List Char} (hs : ∀ c ∈ s, endsAuthority c = false) :
    authority ('/' :: '/' :: s) = s := by
  refine List.takeWhile_eq_self_iff.mpr fun c hc => ?_
  have hstop := hs c hc
  simp only [endsAuthority, Bool.or_eq_false_iff, beq_eq_false_iff_ne] at hstop
  simp only [Bool.and_eq_true, bne_iff_ne]
  exact hstop

/-- Whether a character may stand in a host or a port. -/
def mayStand (c : Char) : Bool :=
  !(isIgnored c || endsAuthority c || c == '@' || delimiterLike.has c)

theorem mayStand_iff {c : Char} :
    mayStand c = true ↔ isIgnored c = false ∧ endsAuthority c = false ∧
      c ≠ '@' ∧ delimiterLike.has c = false := by
  rw [mayStand, Bool.not_eq_true', Bool.or_eq_false_iff, Bool.or_eq_false_iff,
    Bool.or_eq_false_iff, beq_eq_false_iff_ne, and_assoc, and_assoc]

/-- The ASCII characters that may stand in no host and in no port. -/
def stops : List Char := ['\t', '\r', '\n', '/', '?', '#', '@']

theorem mayStand_of_not_mem_stops {c : Char} (hstops : c ∉ stops)
    (hlike : delimiterLike.has c = false) : mayStand c = true := by
  simp only [stops, List.mem_cons, List.not_mem_nil, or_false, not_or] at hstops
  simp only [mayStand_iff, isIgnored, endsAuthority, Bool.or_eq_false_iff,
    beq_eq_false_iff_ne]
  tauto

/-- The authority of a URL. -/
def authorityOf (s : List Char) : List Char := authority (splitScheme (clean s)).2

theorem mem_clean_of_mem_authorityOf {s : List Char} {c : Char}
    (hc : c ∈ authorityOf s) : c ∈ clean s := by
  have hrest := (mem_authority hc).1
  rcases splitScheme_cases (clean s) with ⟨-, hmem⟩ | heq
  · exact hmem c hrest
  · rw [heq] at hrest
    exact hrest

theorem mem_of_mem_authorityOf {s : List Char} {c : Char}
    (hc : c ∈ authorityOf s) : c ∈ s :=
  (List.dropWhile_sublist _).subset
    (List.mem_filter.mp (mem_clean_of_mem_authorityOf hc)).1

theorem Head.read_eq (s : List Char) :
    Head.read s = checkBrackets (authorityOf s) >>= fun _ =>
      if (authorityOf s).any delimiterLike.has then
        .error (.hiddenDelimiter (authorityOf s))
      else
        .ok { scheme := (splitScheme (clean s)).1
              host := lowerHost (hostAndPort (authorityOf s)).1
              port := (hostAndPort (authorityOf s)).2 } :=
  rfl

theorem Head.read_eq_ok_iff {s : List Char} {head : Head} :
    Head.read s = .ok head ↔
      checkBrackets (authorityOf s) = .ok () ∧
        (authorityOf s).any delimiterLike.has = false ∧
          head = { scheme := (splitScheme (clean s)).1
                   host := lowerHost (hostAndPort (authorityOf s)).1
                   port := (hostAndPort (authorityOf s)).2 } := by
  rw [Head.read_eq]
  constructor
  · intro h
    obtain ⟨⟨⟩, hbrackets, h⟩ := bind_eq_ok_iff.mp h
    split at h
    next => exact nomatch h
    next hlike =>
      exact ⟨hbrackets, Bool.eq_false_iff.mpr hlike, (Except.ok.inj h).symm⟩
  · rintro ⟨hbrackets, hlike, rfl⟩
    refine bind_eq_ok_iff.mpr ⟨(), hbrackets, ?_⟩
    rw [if_neg (Bool.eq_false_iff.mp hlike)]

/-- The characters behind the user name of an authority may stand there. -/
theorem mayStand_of_mem_behindLast {s : List Char} {head : Head}
    (h : Head.read s = .ok head) {c : Char}
    (hc : c ∈ behindLast '@' (authorityOf s)) : mayStand c = true := by
  have hauth := mem_of_mem_behindLast hc
  have hends := (mem_authority hauth).2
  have hclean := mem_clean_of_mem_authorityOf hauth
  have hat : c ≠ '@' := fun heq => not_mem_behindLast '@' _ (heq ▸ hc)
  obtain ⟨-, hlike, -⟩ := Head.read_eq_ok_iff.mp h
  exact mayStand_iff.mpr ⟨isIgnored_of_mem_clean hclean, hends, hat,
    Bool.eq_false_iff.mpr (List.any_eq_false.mp hlike c hauth)⟩

/-- The letters that lower-casing brings into a host may stand there. -/
theorem mayStand_of_isForm {c : Char} (h : IsForm c) : mayStand c = true := by
  refine mayStand_of_not_mem_stops (fun hc => ?_)
    (h.has_eq_false delimiterLike_avoidsForms)
  have hstops : (stops.all fun d => isAsciiChar d && !d.isLower) = true := by decide
  obtain ⟨hascii, hletter⟩ := Bool.and_eq_true_iff.mp (List.all_eq_true.mp hstops c hc)
  rw [h.isLower_of_lt (of_decide_eq_true hascii)] at hletter
  exact nomatch hletter

theorem mayStand_of_mem_lowerHost {host : List Char}
    (hhost : ∀ c ∈ host, mayStand c = true) {c : Char} (hc : c ∈ lowerHost host) :
    mayStand c = true := by
  rcases mem_or_isForm_of_mem_lowerHost hc with hmem | hform
  · exact hhost c hmem
  · exact mayStand_of_isForm hform

/-! ## Ports -/

theorem isDigit_of_mem_toDigits {n : Nat} {c : Char} (hc : c ∈ Nat.toDigits 10 n) :
    c.isDigit = true :=
  Nat.isDigit_of_mem_toDigits (by decide) (by decide) hc

/-- The number that the text of a port stands for, if there is one. -/
def portOf (port : List Char) : Option Nat :=
  if port.isEmpty then none else some (Nat.ofDigitChars 10 port 0)

theorem portNumber_eq_ok {head : Head} {port : Option Nat}
    (h : head.portNumber = .ok port) :
    port = portOf head.port ∧ ∀ n ∈ port, n ≤ 65535 := by
  rw [Head.portNumber] at h
  rw [portOf]
  split at h
  next hempty =>
    obtain rfl := Except.ok.inj h
    rw [if_pos hempty]
    exact ⟨rfl, nofun⟩
  next hempty =>
    split at h
    next => exact nomatch h
    next =>
      split at h
      next => exact nomatch h
      next =>
        dsimp only at h
        split at h
        next => exact nomatch h
        next hrange =>
          obtain rfl := Except.ok.inj h
          rw [if_neg hempty]
          refine ⟨rfl, fun n hn => ?_⟩
          obtain rfl := Option.some.inj hn
          exact Nat.le_of_not_lt hrange

/-- A number that may be a port is read from its digits. -/
theorem portNumber_toDigits {head : Head} {n : Nat} (hn : n ≤ 65535)
    (hport : head.port = Nat.toDigits 10 n) : head.portNumber = .ok (some n) := by
  have hempty : ¬head.port.isEmpty = true := by
    rw [hport, List.isEmpty_iff]
    exact Nat.toDigits_ne_nil
  have hdigits : ¬(!(head.port.all (·.isDigit))) = true := by
    rw [hport, Bool.not_eq_true', Bool.not_eq_false, List.all_eq_true]
    exact fun c => isDigit_of_mem_toDigits
  have hlength : ¬4300 < head.port.length := by
    have hfive := Nat.toDigits_length 10 n 5 (by decide) (by omega)
    rw [hport]
    omega
  have hvalue : Nat.ofDigitChars 10 head.port 0 = n := by
    rw [hport, Nat.ofDigitChars_ten_toDigits]
  rw [Head.portNumber, if_neg hempty, if_neg hdigits, if_neg hlength]
  dsimp only
  rw [hvalue, if_neg (Nat.not_lt.mpr hn)]

end FeatureGrant.Url
