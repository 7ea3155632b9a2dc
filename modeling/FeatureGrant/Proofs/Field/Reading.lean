import FeatureGrant.Proofs.Field.Comma
import FeatureGrant.Proofs.Field.Grammar
import FeatureGrant.Proofs.Result
import FeatureGrant.Proofs.Text.Letters
import Mathlib.Algebra.Group.Nat.Defs
import Mathlib.Data.List.TakeWhile

/-!
# Dictionaries are read as they are written

What a reader takes off the front of a text is written there, and what is
written in front of a text is taken off it, provided that what follows cannot go
on with the value: readers take as many characters as they can.
-/

namespace FeatureGrant.Field

open FeatureGrant.Text

/-! ## What follows a value -/

/-- The characters that may follow a single value. -/
def followers : List Char := [' ', '\t', ',', ')', ';']

/-- The characters that may follow a value with its parameters. -/
def closers : List Char := [' ', '\t', ',', ')']

/-- A text that starts, if at all, with one of some characters. -/
def StartsIn (chars s : List Char) : Prop := ∀ c ∈ s.head?, c ∈ chars

theorem startsIn_nil (chars : List Char) : StartsIn chars [] := nofun

theorem startsIn_cons {chars : List Char} {c : Char} (hc : c ∈ chars)
    (rest : List Char) : StartsIn chars (c :: rest) := by
  intro d hd
  rwa [← Option.some.inj hd]

theorem StartsIn.follows {s : List Char} (hs : StartsIn closers s) :
    StartsIn followers s := by
  have hsplit : followers = closers ++ [';'] := rfl
  rw [hsplit]
  exact fun c hc => List.mem_append_left _ (hs c hc)

/-- A run of characters ends where a text starts that does not go on with
it. -/
theorem run_append {p : Char → Bool} {chars run rest : List Char}
    (hchars : chars.any p = false) (hrest : StartsIn chars rest)
    (hrun : ∀ c ∈ run, p c = true) :
    (run ++ rest).takeWhile p = run ∧ (run ++ rest).dropWhile p = rest := by
  have hstop : ∀ c ∈ rest.head?, p c = false := fun c hc =>
    Bool.eq_false_iff.mpr (List.any_eq_false.mp hchars c (hrest c hc))
  have htake : rest.takeWhile p = [] := by
    cases rest with
    | nil => rfl
    | cons c tail =>
        have hc : p c = false := hstop c rfl
        exact List.takeWhile_cons_of_neg (by rw [hc]; exact Bool.false_ne_true)
  have hdrop : rest.dropWhile p = rest := by
    cases rest with
    | nil => rfl
    | cons c tail =>
        have hc : p c = false := hstop c rfl
        exact List.dropWhile_cons_of_neg (by rw [hc]; exact Bool.false_ne_true)
  rw [List.takeWhile_append_of_pos hrun, List.dropWhile_append_of_pos hrun,
    htake, hdrop, List.append_nil]
  exact ⟨rfl, rfl⟩

/-- The run of characters in front of a text. -/
theorem exists_run (p : Char → Bool) (s : List Char) :
    ∃ run rest, s = run ++ rest ∧ (∀ c ∈ run, p c = true) ∧
      s.takeWhile p = run ∧ s.dropWhile p = rest :=
  ⟨_, _, (List.takeWhile_append_dropWhile).symm,
    fun _ hc => List.mem_takeWhile_imp hc, rfl, rfl⟩

/-! ## Numbers -/

theorem number_cons (c : Char) (digits : List Char) :
    number (c :: digits) =
      10 ^ digits.length * (c.toNat - 48) + number digits := by
  have hvalue : 10 * 0 + (c.toNat - '0'.toNat) = c.toNat - 48 :=
    Nat.zero_add _
  rw [number, Nat.ofDigitChars_cons, Nat.ofDigitChars_eq_ofDigitChars_zero,
    hvalue]
  rfl

theorem number_lt {digits : List Char}
    (hdigits : ∀ c ∈ digits, c.isDigit = true) :
    number digits < 10 ^ digits.length := by
  induction digits with
  | nil => exact Nat.one_pos
  | cons c rest ih =>
      obtain ⟨hc, hrest⟩ := List.forall_mem_cons.mp hdigits
      have hnine : c.toNat ≤ 57 := (Char.isDigit_iff_toNat.mp hc).2
      have htail := ih hrest
      rw [number_cons, List.length_cons, Nat.pow_succ]
      have hle : 10 ^ rest.length * (c.toNat - 48) ≤ 10 ^ rest.length * 9 :=
        Nat.mul_le_mul_left _ (by omega)
      omega

/-- The digits that a reader takes for an integer are those that fit by the
rules that readers follow. -/
theorem fitsInteger_iff {digits rest : List Char} (hdigits : IsDigits digits) :
    FitsInteger .lax digits rest ↔
      (16 < digits.length || (digits.length == 16 && !rest.isEmpty)
        || 999999999999999 < number digits) = false := by
  simp only [Bool.or_eq_false_iff, decide_eq_false_iff_not, Bool.and_eq_false_iff,
    beq_eq_false_iff_ne, Bool.not_eq_false', List.isEmpty_iff, Nat.not_lt]
  constructor
  · rintro (hlength | ⟨-, hrest, hlength, hzero⟩)
    · have hlt := number_lt hdigits.all
      have hpow : 10 ^ digits.length ≤ 10 ^ 15 :=
        Nat.pow_le_pow_right (by decide) hlength
      exact ⟨⟨by omega, Or.inl (by omega)⟩, by omega⟩
    · obtain ⟨tail, rfl⟩ := List.head?_eq_some_iff.mp hzero
      have hlt := number_lt (List.forall_mem_cons.mp hdigits.all).2
      rw [List.length_cons, Nat.add_right_cancel_iff] at hlength
      rw [hlength] at hlt
      have hvalue : number ('0' :: tail) = number tail := by
        rw [number_cons]
        exact Nat.zero_add _
      rw [hvalue, List.length_cons, hlength]
      exact ⟨⟨Nat.le_refl 16, Or.inr hrest⟩, by omega⟩
  · rintro ⟨⟨hsixteen, hend⟩, hvalue⟩
    by_cases hlength : digits.length ≤ 15
    · exact Or.inl hlength
    · have hlength' : digits.length = 16 := by omega
      refine Or.inr ⟨rfl, hend.resolve_left fun h => h hlength', hlength', ?_⟩
      obtain ⟨c, tail, rfl⟩ := List.exists_cons_of_ne_nil hdigits.ne_nil
      have hc := (List.forall_mem_cons.mp hdigits.all).1
      have hzero : 48 ≤ c.toNat := (Char.isDigit_iff_toNat.mp hc).1
      rw [List.length_cons, Nat.add_right_cancel_iff] at hlength'
      rw [number_cons, hlength'] at hvalue
      have hcode : c.toNat = '0'.toNat := by
        change c.toNat = 48
        omega
      rw [List.head?_cons, Char.toNat_inj.mp hcode]

theorem FitsInteger.lax {rules : Rules} {digits rest : List Char}
    (hfits : FitsInteger rules digits rest) : FitsInteger .lax digits rest := by
  rcases hfits with h | ⟨-, h⟩
  · exact Or.inl h
  · exact Or.inr ⟨rfl, h⟩

theorem takeSign_signChars (negative : Bool) {digits : List Char}
    (hdigits : IsDigits digits) (rest : List Char) :
    takeSign (signChars negative ++ (digits ++ rest)) =
      (negative, digits ++ rest) := by
  obtain ⟨c, tail, rfl⟩ := List.exists_cons_of_ne_nil hdigits.ne_nil
  have hc := (List.forall_mem_cons.mp hdigits.all).1
  cases negative with
  | true => rfl
  | false =>
      have hminus : c ≠ '-' := ne_of_class hc (by decide)
      change takeSign (c :: (tail ++ rest)) = (false, c :: (tail ++ rest))
      rw [takeSign]
      exact fun _ h => hminus (List.cons.inj h).1

variable {rules : Rules}

theorem readNumber_integer {digits rest : List Char} (negative : Bool)
    (hdigits : IsDigits digits) (hfits : FitsInteger rules digits rest)
    (hrest : StartsIn followers rest) :
    readNumber (signChars negative ++ (digits ++ rest)) =
      some (.integer (if negative then -number digits else number digits),
        rest) := by
  obtain ⟨htake, hdrop⟩ := run_append (by decide) hrest hdigits.all
  have hread := (fitsInteger_iff hdigits).mp hfits.lax
  have hne : ¬digits.isEmpty = true := by
    rw [List.isEmpty_iff]
    exact hdigits.ne_nil
  simp only [readNumber, takeSign_signChars negative hdigits, htake, hdrop]
  rw [if_neg hne]
  split
  next behind hpoint =>
    have hmem := hrest '.' rfl
    exact absurd hmem (by decide)
  next =>
    rw [if_neg (by rw [← number, hread]; exact Bool.false_ne_true)]
    rfl

theorem readNumber_decimal {whole fraction rest : List Char} (negative : Bool)
    (hwhole : IsDigits whole) (hlength : whole.length ≤ 12)
    (hfraction : ∀ c ∈ fraction, c.isDigit = true)
    (hshort : fraction.length ≤ 3) (hrest : StartsIn followers rest) :
    readNumber (signChars negative ++ (whole ++ '.' :: (fraction ++ rest))) =
      some (.decimal ⟨negative, number whole, fraction⟩, rest) := by
  obtain ⟨htake, hdrop⟩ := run_append (by decide)
    (startsIn_cons (List.mem_singleton_self '.') (fraction ++ rest)) hwhole.all
  obtain ⟨htake', hdrop'⟩ := run_append (by decide) hrest hfraction
  have hne : ¬whole.isEmpty = true := by
    rw [List.isEmpty_iff]
    exact hwhole.ne_nil
  have hfits : ¬(decide (12 < whole.length) || decide (3 < fraction.length)) =
      true := by
    simp only [Bool.or_eq_true, decide_eq_true_eq]
    omega
  simp only [readNumber, takeSign_signChars negative hwhole, htake, hdrop,
    htake', hdrop']
  rw [if_neg hne, if_neg hfits]
  rfl

/-- A number that was read is written as a number. -/
theorem isBareItem_of_readNumber {s rest : List Char} {item : BareItem}
    (hread : readNumber s = some (item, rest)) :
    IsBareItem .lax s item rest := by
  have hsign : ∃ negative unsigned, takeSign s = (negative, unsigned) ∧
      s = signChars negative ++ unsigned := by
    unfold takeSign
    split
    next tail => exact ⟨true, tail, rfl, rfl⟩
    next => exact ⟨false, s, rfl, rfl⟩
  obtain ⟨negative, unsigned, htake, rfl⟩ := hsign
  obtain ⟨digits, behind, rfl, hall, hdigits, hbehind⟩ :=
    exists_run (·.isDigit) unsigned
  simp only [readNumber, htake, hdigits, hbehind] at hread
  split at hread
  next => cases hread
  next hne =>
    rw [List.isEmpty_iff] at hne
    split at hread
    next more =>
      split at hread
      next => cases hread
      next hlength =>
        obtain ⟨fraction, rest', rfl, hfraction, htake', hdrop'⟩ :=
          exists_run (·.isDigit) more
        rw [htake', hdrop'] at hread
        rw [htake', Bool.or_eq_true, decide_eq_true_iff, decide_eq_true_iff,
          not_or, Nat.not_lt, Nat.not_lt] at hlength
        obtain ⟨rfl, rfl⟩ := Prod.mk.inj (Option.some.inj hread)
        exact .decimal ⟨hne, hall⟩ hlength.1 hfraction hlength.2 (Or.inr rfl)
    next hpoint =>
      split at hread
      next => cases hread
      next hread' =>
        obtain ⟨rfl, rfl⟩ := Prod.mk.inj (Option.some.inj hread)
        rw [Bool.not_eq_true] at hread'
        exact .integer ⟨hne, hall⟩ ((fitsInteger_iff ⟨hne, hall⟩).mpr hread')

/-! ## Texts in quotation marks -/

theorem readQuoted_quotedChars {cs : List Char}
    (hcs : ∀ c ∈ cs, isVisible c = true) (rest : List Char) :
    readQuoted (cs.flatMap quotedChars ++ '"' :: rest) = some (cs, rest) := by
  induction cs with
  | nil => rfl
  | cons c tail ih =>
      obtain ⟨hc, htail⟩ := List.forall_mem_cons.mp hcs
      rw [List.flatMap_cons, List.append_assoc, quotedChars]
      by_cases hescaped : c = '"' ∨ c = '\\'
      · rw [if_pos hescaped, List.cons_append, List.singleton_append, readQuoted,
          if_pos (by simpa using hescaped), ih htail]
        rfl
      · rw [if_neg hescaped, List.singleton_append, readQuoted, if_pos hc,
          ih htail]
        · rfl
        · exact fun h => hescaped (Or.inl h)
        · exact fun h _ => hescaped (Or.inr h)
        · exact fun _ _ h _ => hescaped (Or.inr h)

theorem exists_of_readQuoted {s cs rest : List Char}
    (hread : readQuoted s = some (cs, rest)) :
    (∀ c ∈ cs, isVisible c = true) ∧
      s = cs.flatMap quotedChars ++ '"' :: rest := by
  fun_induction readQuoted s generalizing cs with
  | case1 => cases hread
  | case2 tail =>
      obtain ⟨rfl, rfl⟩ := Prod.mk.inj (Option.some.inj hread)
      exact ⟨List.forall_mem_nil _, rfl⟩
  | case3 => cases hread
  | case4 c tail hc ih =>
      obtain ⟨⟨cs', rest'⟩, htail, heq⟩ := Option.map_eq_some_iff.mp hread
      obtain ⟨rfl, rfl⟩ := Prod.mk.inj heq
      obtain ⟨hvisible, rfl⟩ := ih htail
      have hescaped : c = '"' ∨ c = '\\' := by simpa using hc
      refine ⟨List.forall_mem_cons.mpr ⟨?_, hvisible⟩, ?_⟩
      · rcases hescaped with rfl | rfl
        · decide
        · decide
      · rw [List.flatMap_cons, quotedChars, if_pos hescaped]
        rfl
  | case5 => cases hread
  | case6 c tail hquote hlast hescape hvisible ih =>
      obtain ⟨⟨cs', rest'⟩, htail, heq⟩ := Option.map_eq_some_iff.mp hread
      obtain ⟨rfl, rfl⟩ := Prod.mk.inj heq
      obtain ⟨hcs, rfl⟩ := ih htail
      have hplain : ¬(c = '"' ∨ c = '\\') := by
        rintro (hc | hc)
        · exact hquote hc
        · cases hs : cs'.flatMap quotedChars ++ '"' :: rest' with
          | nil => exact hlast hc hs
          | cons d more => exact hescape d more hc hs
      refine ⟨List.forall_mem_cons.mpr ⟨hvisible, hcs⟩, ?_⟩
      rw [List.flatMap_cons, quotedChars, if_neg hplain]
      rfl
  | case7 => cases hread

/-! ## Display texts -/

theorem readEscaped_eq_some_iff {s rest : List Char} {bytes : List UInt8} :
    readEscaped s = some (bytes, rest) ↔ IsEscaped s bytes rest := by
  constructor
  · intro hread
    fun_induction readEscaped s generalizing bytes with
    | case1 => cases hread
    | case2 tail =>
        obtain ⟨rfl, rfl⟩ := Prod.mk.inj (Option.some.inj hread)
        exact .close
    | case3 high low tail b hb ih =>
        obtain ⟨⟨bs, rest'⟩, htail, heq⟩ := Option.map_eq_some_iff.mp hread
        obtain ⟨rfl, rfl⟩ := Prod.mk.inj heq
        exact .escaped hb (ih htail)
    | case4 => cases hread
    | case5 c tail hquote hescape hc ih =>
        obtain ⟨⟨bs, rest'⟩, htail, heq⟩ := Option.map_eq_some_iff.mp hread
        obtain ⟨rfl, rfl⟩ := Prod.mk.inj heq
        obtain ⟨hvisible, hpercent⟩ := Bool.and_eq_true_iff.mp hc
        exact .plain hvisible (bne_iff_ne.mp hpercent) hquote (ih htail)
    | case6 => cases hread
  · intro hs
    induction hs with
    | close => rfl
    | escaped hb _ ih => simp only [readEscaped, hb, ih, Option.map_some]
    | plain hvisible hpercent hquote _ ih =>
        rw [readEscaped, if_pos, ih]
        · rfl
        · rw [hvisible, bne_iff_ne.mpr hpercent]
          rfl
        · exact hquote
        · exact fun _ _ _ h _ => hpercent h

/-! ## Single values -/

theorem isTokenStart_of_isDigit {c : Char} (hc : c.isDigit = true) :
    isTokenStart c = false := by
  have halpha : c.isAlpha = false := by
    have hcode := isDigit_iff_code.mp hc
    rw [Bool.eq_false_iff, Ne, isAlpha_iff_code]
    omega
  have hstar : c ≠ '*' := ne_of_class hc (by decide)
  rw [isTokenStart, halpha, beq_false_of_ne hstar]
  rfl

theorem readBareItem_number {c : Char} (hc : c.isDigit = true ∨ c = '-')
    (tail : List Char) :
    readBareItem (c :: tail) = readNumber (c :: tail) := by
  rcases hc with hc | rfl
  · have hquote : c ≠ '"' := ne_of_class hc (by decide)
    rw [readBareItem, beq_false_of_ne hquote, isTokenStart_of_isDigit hc, hc]
    rfl
  · rfl

theorem exists_signed_eq_cons (negative : Bool) {digits : List Char}
    (hdigits : IsDigits digits) (more : List Char) :
    ∃ c tail, signChars negative ++ (digits ++ more) = c :: tail ∧
      (c.isDigit = true ∨ c = '-') := by
  cases negative with
  | true => exact ⟨'-', digits ++ more, rfl, Or.inr rfl⟩
  | false =>
      obtain ⟨c, tail, rfl⟩ := List.exists_cons_of_ne_nil hdigits.ne_nil
      exact ⟨c, tail ++ more, rfl,
        Or.inl (List.forall_mem_cons.mp hdigits.all).1⟩

theorem isBareItem_of_readBoolean {s rest : List Char} {item : BareItem}
    (hread : readBoolean s = some (item, rest)) :
    IsBareItem .lax ('?' :: s) item rest := by
  unfold readBoolean at hread
  split at hread
  next =>
    obtain ⟨rfl, rfl⟩ := Prod.mk.inj (Option.some.inj hread)
    exact .boolean false
  next =>
    obtain ⟨rfl, rfl⟩ := Prod.mk.inj (Option.some.inj hread)
    exact .boolean true
  next => exact nomatch hread

theorem isBareItem_of_readBytes {s rest : List Char} {item : BareItem}
    (hread : readBytes s = some (item, rest)) :
    IsBareItem .lax (':' :: s) item rest := by
  obtain ⟨encoded, behind, rfl, -, htake, hdrop⟩ := exists_run (· != ':') s
  simp only [readBytes, htake, hdrop] at hread
  split at hread
  next => cases hread
  next colon behind =>
    split at hread
    next hencoded =>
      obtain ⟨bytes, hbytes, heq⟩ := Option.map_eq_some_iff.mp hread
      obtain ⟨rfl, rfl⟩ := Prod.mk.inj heq
      have hcolon : (colon != ':') = false := by
        have h := List.head?_dropWhile_not (· != ':') (encoded ++ colon :: behind)
        rwa [hdrop] at h
      obtain rfl : colon = ':' := by simpa using hcolon
      refine .bytes ?_ (toOption_eq_some_iff.mp hbytes)
      intro c hc
      simpa [IsBase64Char] using List.all_eq_true.mp hencoded c hc
    next => cases hread

theorem isBareItem_of_readDate {s rest : List Char} {item : BareItem}
    (hread : readDate s = some (item, rest)) :
    IsBareItem .lax ('@' :: s) item rest := by
  unfold readDate at hread
  split at hread
  next seconds behind hnumber =>
    split at hread
    next hrange =>
      obtain ⟨rfl, rfl⟩ := Prod.mk.inj (Option.some.inj hread)
      simp only [Bool.and_eq_true, decide_eq_true_eq] at hrange
      exact .date nofun (isBareItem_of_readNumber hnumber) hrange.1 hrange.2
    next => exact nomatch hread
  next => exact nomatch hread

theorem isBareItem_of_readDisplay {s rest : List Char} {item : BareItem}
    (hread : readDisplay s = some (item, rest)) :
    IsBareItem .lax ('%' :: s) item rest := by
  unfold readDisplay at hread
  split at hread
  next tail =>
    split at hread
    next => exact nomatch hread
    next bytes behind hescaped =>
      split at hread
      next chars hchars =>
        obtain ⟨rfl, rfl⟩ := Prod.mk.inj (Option.some.inj hread)
        exact .display nofun (readEscaped_eq_some_iff.mp hescaped) hchars
      next => exact nomatch hread
  next => exact nomatch hread

theorem isBareItem_of_readBareItem {s rest : List Char} {item : BareItem}
    (hread : readBareItem s = some (item, rest)) :
    IsBareItem .lax s item rest := by
  cases s with
  | nil => cases hread
  | cons c tail =>
      rw [readBareItem] at hread
      split at hread
      next hc =>
        obtain rfl := beq_iff_eq.mp hc
        obtain ⟨⟨cs, rest'⟩, hquoted, heq⟩ := Option.map_eq_some_iff.mp hread
        obtain ⟨rfl, rfl⟩ := Prod.mk.inj heq
        obtain ⟨hvisible, rfl⟩ := exists_of_readQuoted hquoted
        exact .text hvisible
      next =>
        split at hread
        next hstart =>
          rw [readToken, if_pos hstart] at hread
          obtain ⟨rfl, rfl⟩ := Prod.mk.inj (Option.some.inj hread)
          obtain ⟨cs, rest, rfl, hcs, htake, hdrop⟩ := exists_run isTokenChar tail
          rw [htake, hdrop]
          exact .token hstart hcs
        next =>
          split at hread
          next => exact isBareItem_of_readNumber hread
          next =>
            split at hread
            next hc =>
              obtain rfl := beq_iff_eq.mp hc
              exact isBareItem_of_readBoolean hread
            next =>
              split at hread
              next hc =>
                obtain rfl := beq_iff_eq.mp hc
                exact isBareItem_of_readBytes hread
              next =>
                split at hread
                next hc =>
                  obtain rfl := beq_iff_eq.mp hc
                  exact isBareItem_of_readDate hread
                next =>
                  split at hread
                  next hc =>
                    obtain rfl := beq_iff_eq.mp hc
                    exact isBareItem_of_readDisplay hread
                  next => cases hread

theorem readBareItem_of_isBareItem {s rest : List Char} {item : BareItem}
    (hitem : IsBareItem rules s item rest) (hrest : StartsIn followers rest) :
    readBareItem s = some (item, rest) := by
  induction hitem with
  | integer hdigits hfits =>
      obtain ⟨c, tail, hcons, hc⟩ := exists_signed_eq_cons _ hdigits _
      rw [hcons, readBareItem_number hc, ← hcons]
      exact readNumber_integer _ hdigits hfits hrest
  | decimal hwhole hlength hfraction hshort =>
      obtain ⟨c, tail, hcons, hc⟩ := exists_signed_eq_cons _ hwhole _
      rw [hcons, readBareItem_number hc, ← hcons]
      exact readNumber_decimal _ hwhole hlength hfraction hshort hrest
  | text hcs =>
      change (readQuoted _).map _ = _
      rw [readQuoted_quotedChars hcs]
      rfl
  | @token c cs rest hc hcs =>
      obtain ⟨htake, hdrop⟩ := run_append (by decide) hrest hcs
      have hquote : c ≠ '"' := ne_of_class hc (by decide)
      rw [readBareItem, beq_false_of_ne hquote, if_neg Bool.false_ne_true,
        if_pos hc, readToken, if_pos hc, htake, hdrop]
  | @bytes encoded rest bytes hencoded hbytes =>
      have hcolon : ∀ c ∈ encoded, (c != ':') = true := by
        intro c hc
        rw [bne_iff_ne]
        rintro rfl
        exact absurd (hencoded ':' hc) (by decide)
      obtain ⟨htake, hdrop⟩ := run_append (by decide)
        (startsIn_cons (List.mem_singleton_self ':') rest) hcolon
      have hall : (encoded.all fun c => (sextet? c).isSome || c == '=') =
          true := by
        rw [List.all_eq_true]
        intro c hc
        simpa [IsBase64Char] using hencoded c hc
      change readBytes (encoded ++ ':' :: rest) = _
      simp only [readBytes, htake, hdrop]
      rw [if_pos hall, hbytes]
      rfl
  | boolean value =>
      cases value with
      | false => rfl
      | true => rfl
  | @date s rest seconds _ hs hfirst hlast =>
      have hnumber : readNumber s = some (.integer seconds, rest) := by
        cases hs with
        | integer hdigits hfits =>
            exact readNumber_integer _ hdigits hfits hrest
      change readDate s = _
      rw [readDate, hnumber]
      exact if_pos (by simp [hfirst, hlast])
  | @display s rest chars bytes _ hs hchars =>
      have hread : readBareItem ('%' :: '"' :: s) = readDisplay ('"' :: s) := rfl
      rw [hread]
      simp only [readDisplay, readEscaped_eq_some_iff.mpr hs, hchars]

/-! ## Keys and parameters -/

theorem isKeyed_of_readKey {s rest : List Char} {key : String}
    (hread : readKey s = some (key, rest)) : IsKeyed s key rest := by
  cases s with
  | nil => cases hread
  | cons c tail =>
      rw [readKey] at hread
      split at hread
      next hstart =>
        obtain ⟨cs, rest', rfl, hcs, htake, hdrop⟩ := exists_run isKeyChar tail
        rw [htake, hdrop] at hread
        obtain ⟨rfl, rfl⟩ := Prod.mk.inj (Option.some.inj hread)
        exact .key hstart hcs
      next => cases hread

theorem readKey_of_isKeyed {s rest chars : List Char} {key : String}
    (hkey : IsKeyed s key rest) (hchars : chars.any isKeyChar = false)
    (hrest : StartsIn chars rest) : readKey s = some (key, rest) := by
  cases hkey with
  | key hc hcs =>
      obtain ⟨htake, hdrop⟩ := run_append hchars hrest hcs
      rw [readKey, if_pos hc, htake, hdrop]

theorem skipSpaces_of_areSpaces {spaces : List Char}
    (hspaces : AreSpaces spaces) {c : Char} (hc : c ≠ ' ') (tail : List Char) :
    skipSpaces (spaces ++ c :: tail) = c :: tail := by
  rw [skipSpaces, List.dropWhile_append_of_pos fun d hd =>
    beq_iff_eq.mpr (hspaces d hd)]
  exact List.dropWhile_cons_of_neg (by simpa using hc)

theorem IsKeyed.exists_eq_cons {s rest : List Char} {key : String}
    (hkey : IsKeyed s key rest) :
    ∃ c tail, s = c :: tail ∧ c ≠ ' ' ∧ c ≠ '\t' := by
  cases hkey with
  | @key c cs _ hc hcs =>
      exact ⟨c, cs ++ rest, rfl, ne_of_class hc (by decide),
        ne_of_class hc (by decide)⟩

theorem skipSpaces_of_isKeyed {spaces s rest : List Char} {key : String}
    (hspaces : AreSpaces spaces) (hkey : IsKeyed s key rest) :
    skipSpaces (spaces ++ s) = s := by
  obtain ⟨c, tail, rfl, hspace, -⟩ := hkey.exists_eq_cons
  exact skipSpaces_of_areSpaces hspaces hspace tail

theorem exists_spaces (s : List Char) :
    ∃ spaces, AreSpaces spaces ∧ s = spaces ++ skipSpaces s := by
  obtain ⟨spaces, rest, hs, hspaces, -, hdrop⟩ := exists_run (· == ' ') s
  exact ⟨spaces, fun c hc => beq_iff_eq.mp (hspaces c hc),
    hs.trans (congrArg _ hdrop.symm)⟩

theorem areParameters_of_skipParameters {s rest : List Char}
    (hskip : skipParameters s = some rest) : AreParameters .lax s rest := by
  fun_induction skipParameters s with
  | case1 => cases hskip
  | case2 => cases hskip
  | case3 behind key afterKey hkey rest' hvalue ih =>
      obtain ⟨spaces, hspaces, hbehind⟩ := exists_spaces behind
      have hkeyed := isKeyed_of_readKey hkey
      rw [hbehind]
      unfold skipParameterValue at hvalue
      split at hvalue
      next tail =>
        obtain ⟨⟨item, rest''⟩, hitem, rfl⟩ := Option.map_eq_some_iff.mp hvalue
        exact .valued hspaces hkeyed (isBareItem_of_readBareItem hitem) (ih hskip)
      next =>
        obtain rfl := Option.some.inj hvalue
        exact .flag hspaces hkeyed (ih hskip)
  | case4 =>
      obtain rfl := Option.some.inj hskip
      exact .none

theorem skipParameters_of_areParameters {s rest : List Char}
    (hs : AreParameters rules s rest) (hrest : StartsIn closers rest) :
    StartsIn followers s ∧ skipParameters s = some rest := by
  induction hs with
  | none =>
      refine ⟨hrest.follows, skipParameters_of_ne ?_⟩
      rintro behind rfl
      exact absurd (hrest ';' rfl) (by decide)
  | @flag spaces s t rest key hspaces hkey _ ih =>
      obtain ⟨hfollows, hskip⟩ := ih hrest
      have hread : readKey (skipSpaces (spaces ++ s)) = some (key, t) := by
        rw [skipSpaces_of_isKeyed hspaces hkey]
        exact readKey_of_isKeyed hkey (by decide) hfollows
      have hvalue : skipParameterValue t = some t := by
        rw [skipParameterValue]
        rintro tail rfl
        exact absurd (hfollows '=' rfl) (by decide)
      refine ⟨startsIn_cons (by decide) _, ?_⟩
      rw [skipParameters_semicolon hread hvalue, hskip]
  | @valued spaces s t u rest key item hspaces hkey hitem _ ih =>
      obtain ⟨hfollows, hskip⟩ := ih hrest
      have hread : readKey (skipSpaces (spaces ++ s)) = some (key, '=' :: t) := by
        rw [skipSpaces_of_isKeyed hspaces hkey]
        exact readKey_of_isKeyed hkey (by decide)
          (startsIn_cons (List.mem_singleton_self '=') t)
      have hvalue : skipParameterValue ('=' :: t) = some u := by
        rw [skipParameterValue, readBareItem_of_isBareItem hitem hfollows]
        rfl
      refine ⟨startsIn_cons (by decide) _, ?_⟩
      rw [skipParameters_semicolon hread hvalue, hskip]

/-! ## Items and inner lists -/

theorem isItem_of_readItem {s rest : List Char} {item : BareItem}
    (hread : readItem s = some (item, rest)) : IsItem .lax s item rest := by
  unfold readItem at hread
  split at hread
  next => exact nomatch hread
  next item' behind hitem =>
    obtain ⟨rest', hskip, heq⟩ := Option.map_eq_some_iff.mp hread
    obtain ⟨rfl, rfl⟩ := Prod.mk.inj heq
    exact ⟨behind, isBareItem_of_readBareItem hitem,
      areParameters_of_skipParameters hskip⟩

theorem readItem_of_isItem {s rest : List Char} {item : BareItem}
    (hitem : IsItem rules s item rest) (hrest : StartsIn closers rest) :
    readItem s = some (item, rest) := by
  obtain ⟨t, hbare, ht⟩ := hitem
  obtain ⟨hfollows, hskip⟩ := skipParameters_of_areParameters ht hrest
  rw [readItem, readBareItem_of_isBareItem hbare hfollows]
  dsimp only
  rw [hskip]
  rfl

/-- An item starts with a character of its own. -/
theorem exists_eq_cons_of_readItem {s rest : List Char} {item : BareItem}
    (hread : readItem s = some (item, rest)) :
    ∃ c tail, s = c :: tail ∧ c ≠ ' ' ∧ c ≠ ')' ∧ c ≠ '(' := by
  cases s with
  | nil => cases hread
  | cons c tail =>
      have hnone {d : Char} (hd : readBareItem (d :: tail) = none) : c ≠ d := by
        rintro rfl
        rw [readItem, hd] at hread
        cases hread
      exact ⟨c, tail, rfl, hnone rfl, hnone rfl, hnone rfl⟩

theorem areItems_of_readItems {s rest : List Char} {items : List BareItem}
    (hread : readItems s = some (items, rest)) : AreItems .lax s items rest := by
  fun_induction readItems s generalizing items with
  | case1 => cases hread
  | case2 s c tail hspaces hclose =>
      obtain ⟨rfl, rfl⟩ := Prod.mk.inj (Option.some.inj hread)
      obtain rfl := beq_iff_eq.mp hclose
      obtain ⟨spaces, hall, hs⟩ := exists_spaces s
      rw [hs, hspaces]
      exact .close hall
  | case3 => cases hread
  | case4 s c tail hspaces hclose item behind hitem hend ih =>
      obtain ⟨⟨items', rest'⟩, hrest, heq⟩ := Option.map_eq_some_iff.mp hread
      obtain ⟨rfl, rfl⟩ := Prod.mk.inj heq
      obtain ⟨spaces, hall, hs⟩ := exists_spaces s
      rw [hs, hspaces]
      exact .item hall (isItem_of_readItem hitem) (by simpa using hend) (ih hrest)
  | case5 => cases hread

theorem readItems_of_areItems {s rest : List Char} {items : List BareItem}
    (hs : AreItems rules s items rest) : readItems s = some (items, rest) := by
  induction hs with
  | close hspaces =>
      exact readItems_close (skipSpaces_of_areSpaces hspaces (by decide) _)
  | @item spaces s t rest item items hspaces hitem hend _ ih =>
      have hcloses : StartsIn closers t := by
        intro c hc
        rcases hend with h | h
        · rw [← Option.some.inj (h.symm.trans hc)]
          decide
        · rw [← Option.some.inj (h.symm.trans hc)]
          decide
      have hread := readItem_of_isItem hitem hcloses
      obtain ⟨c, tail, rfl, hspace, hclose, -⟩ := exists_eq_cons_of_readItem hread
      have hskip := skipSpaces_of_areSpaces hspaces hspace tail
      rw [readItems_cons hskip (by simpa using hclose) hread
        (by simpa using hend), ih]
      rfl

/-! ## Members -/

theorem isMember_of_readMember {s rest : List Char} {member : Member}
    (hread : readMember s = some (member, rest)) :
    IsMember .lax s member rest := by
  unfold readMember at hread
  split at hread
  next tail =>
    split at hread
    next => exact nomatch hread
    next items behind hitems =>
      obtain ⟨rest', hskip, heq⟩ := Option.map_eq_some_iff.mp hread
      obtain ⟨rfl, rfl⟩ := Prod.mk.inj heq
      exact .innerList (areItems_of_readItems hitems)
        (areParameters_of_skipParameters hskip)
  next =>
    obtain ⟨⟨item, rest'⟩, hitem, heq⟩ := Option.map_eq_some_iff.mp hread
    obtain ⟨rfl, rfl⟩ := Prod.mk.inj heq
    exact .item (isItem_of_readItem hitem)
  next =>
    obtain ⟨rest', hskip, heq⟩ := Option.map_eq_some_iff.mp hread
    obtain ⟨rfl, rfl⟩ := Prod.mk.inj heq
    exact .flag (areParameters_of_skipParameters hskip)

/-- What may start behind a key: a value, a parameter, or what follows a
member. -/
def afterKeys : List Char := '=' :: followers

theorem readMember_of_isMember {s rest : List Char} {member : Member}
    (hmember : IsMember rules s member rest) (hrest : StartsIn closers rest) :
    StartsIn afterKeys s ∧ readMember s = some (member, rest) := by
  cases hmember with
  | flag hs =>
      obtain ⟨hfollows, hskip⟩ := skipParameters_of_areParameters hs hrest
      have hvalue (tail : List Char) (h : s = '=' :: tail) : False := by
        rw [h] at hfollows
        exact absurd (hfollows '=' rfl) (by decide)
      refine ⟨fun c hc => List.mem_cons_of_mem _ (hfollows c hc), ?_⟩
      rw [readMember, hskip]
      · rfl
      · exact fun tail h => hvalue _ h
      · exact hvalue
  | item hs =>
      have hread := readItem_of_isItem hs hrest
      obtain ⟨c, tail, rfl, -, -, hparen⟩ := exists_eq_cons_of_readItem hread
      refine ⟨startsIn_cons List.mem_cons_self _, ?_⟩
      rw [readMember, hread]
      · rfl
      · exact fun _ h => hparen (List.cons.inj h).1
  | innerList hs ht =>
      obtain ⟨-, hskip⟩ := skipParameters_of_areParameters ht hrest
      refine ⟨startsIn_cons List.mem_cons_self _, ?_⟩
      simp only [readMember, readItems_of_areItems hs, hskip, Option.map_some]

/-! ## Dictionaries -/

theorem exists_blanks (s : List Char) :
    ∃ blanks, AreBlanks blanks ∧ s = blanks ++ skipBlanks s := by
  obtain ⟨blanks, rest, hs, hblanks, -, hdrop⟩ :=
    exists_run (fun c => c == ' ' || c == '\t') s
  refine ⟨blanks, fun c hc => ?_, hs.trans (congrArg _ hdrop.symm)⟩
  simpa using hblanks c hc

theorem areMembers_of_readMembers {s : List Char}
    {members : List (String × Member)} (hread : readMembers s = some members) :
    AreMembers .lax s members := by
  fun_induction readMembers s generalizing members with
  | case1 => cases hread
  | case2 => cases hread
  | case3 s key afterKey hkey member afterMember hmember hblanks =>
      obtain rfl := Option.some.inj hread
      obtain ⟨blanks, hall, hafter⟩ := exists_blanks afterMember
      rw [hblanks, List.append_nil] at hafter
      exact .last (isKeyed_of_readKey hkey) (isMember_of_readMember hmember)
        (hafter ▸ hall)
  | case4 s key afterKey hkey member afterMember hmember behind hblanks ih =>
      obtain ⟨rest, hrest, rfl⟩ := Option.map_eq_some_iff.mp hread
      obtain ⟨blanks, hall, hafter⟩ := exists_blanks afterMember
      obtain ⟨blanks', hall', hbehind⟩ := exists_blanks behind
      rw [hblanks, hbehind] at hafter
      rw [hafter] at hmember
      exact .comma (isKeyed_of_readKey hkey) (isMember_of_readMember hmember)
        hall hall' (ih hrest)
  | case5 => cases hread

theorem skipBlanks_of_areBlanks {blanks : List Char}
    (hblanks : AreBlanks blanks) {c : Char} (hspace : c ≠ ' ') (htab : c ≠ '\t')
    (tail : List Char) : skipBlanks (blanks ++ c :: tail) = c :: tail := by
  have hall : ∀ d ∈ blanks, (d == ' ' || d == '\t') = true := by
    intro d hd
    simpa using hblanks d hd
  rw [skipBlanks, List.dropWhile_append_of_pos hall]
  exact List.dropWhile_cons_of_neg (by simp [hspace, htab])

theorem AreBlanks.startsIn {blanks rest : List Char}
    (hblanks : AreBlanks blanks) (hrest : StartsIn closers rest) :
    StartsIn closers (blanks ++ rest) := by
  cases blanks with
  | nil => exact hrest
  | cons c tail =>
      apply startsIn_cons
      rcases hblanks c List.mem_cons_self with rfl | rfl
      · decide
      · decide

theorem readMembers_last {s afterKey afterMember : List Char} {key : String}
    {member : Member} (hkey : readKey s = some (key, afterKey))
    (hmember : readMember afterKey = some (member, afterMember))
    (hend : skipBlanks afterMember = []) :
    readMembers s = some [(key, member)] := by
  rw [readMembers]
  split
  next hnone => cases hnone.symm.trans hkey
  next key' afterKey' hkey' =>
    obtain ⟨rfl, rfl⟩ := Prod.mk.inj (Option.some.inj (hkey.symm.trans hkey'))
    split
    next hnone => cases hnone.symm.trans hmember
    next member' afterMember' hmember' =>
      obtain ⟨rfl, rfl⟩ :=
        Prod.mk.inj (Option.some.inj (hmember.symm.trans hmember'))
      split
      next => rfl
      next hcomma => cases hcomma.symm.trans hend
      next hnil _ => exact absurd hend hnil

theorem readMembers_of_areMembers {s : List Char}
    {members : List (String × Member)} (hs : AreMembers rules s members) :
    readMembers s = some members := by
  have hafter {t rest : List Char} {member : Member} {s : List Char}
      {key : String} (hkey : IsKeyed s key t)
      (hmember : IsMember rules t member rest) (hrest : StartsIn closers rest) :
      readKey s = some (key, t) ∧ readMember t = some (member, rest) := by
    obtain ⟨hstart, hread⟩ := readMember_of_isMember hmember hrest
    exact ⟨readKey_of_isKeyed hkey (by decide) hstart, hread⟩
  induction hs with
  | @last s t blanks key member hkey hmember hblanks =>
      have hcloses : StartsIn closers blanks := by
        rw [← List.append_nil blanks]
        exact hblanks.startsIn (startsIn_nil closers)
      obtain ⟨hread, hread'⟩ := hafter hkey hmember hcloses
      have hend : skipBlanks blanks = [] := by
        rw [skipBlanks, List.dropWhile_eq_nil_iff]
        intro c hc
        simpa using hblanks c hc
      exact readMembers_last hread hread' hend
  | @comma s t u blanks blanks' key member members hkey hmember hblanks hblanks'
      hu ih =>
      obtain ⟨hread, hread'⟩ := hafter hkey hmember
        (hblanks.startsIn (startsIn_cons (by decide) _))
      have hcomma := skipBlanks_of_areBlanks hblanks
        (show ',' ≠ ' ' by decide) (by decide) (blanks' ++ u)
      obtain ⟨c, tail, rfl, hspace, htab⟩ :
          ∃ c tail, u = c :: tail ∧ c ≠ ' ' ∧ c ≠ '\t' := by
        cases hu with
        | last hkey => exact hkey.exists_eq_cons
        | comma hkey => exact hkey.exists_eq_cons
      rw [readMembers_comma hread hread' hcomma,
        skipBlanks_of_areBlanks hblanks' hspace htab, ih]
      rfl

/-- Whatever is written as a dictionary is read as it is written. -/
theorem readDictionary_of_isDictionary {s : List Char}
    {members : List (String × Member)} (hs : IsDictionary rules s members) :
    readDictionary s = some members := by
  obtain ⟨spaces, t, rfl, hspaces, hmembers⟩ := hs
  have hskip : skipSpaces (spaces ++ t) = t := by
    cases hmembers with
    | last hkey => exact skipSpaces_of_isKeyed hspaces hkey
    | comma hkey => exact skipSpaces_of_isKeyed hspaces hkey
  rw [readDictionary, hskip]
  exact readMembers_of_areMembers hmembers

/-- A dictionary is read if and only if it is written by the rules that readers
follow. -/
theorem readDictionary_eq_some_iff {s : List Char}
    {members : List (String × Member)} :
    readDictionary s = some members ↔ IsDictionary .lax s members := by
  constructor
  · intro hread
    obtain ⟨spaces, hspaces, hs⟩ := exists_spaces s
    exact ⟨spaces, skipSpaces s, hs, hspaces, areMembers_of_readMembers hread⟩
  · exact readDictionary_of_isDictionary

end FeatureGrant.Field
