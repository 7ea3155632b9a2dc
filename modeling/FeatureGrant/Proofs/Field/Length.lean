import FeatureGrant.Proofs.Field.Characters
import FeatureGrant.Proofs.Field.Reading

/-!
# The length of numbers

By the rules of RFC 8941, with or without dates and display texts, no integer has
more than fifteen digits, so no dictionary ends in a number that is too long before a
comma.  A number at the end of a text is written behind an equality sign.  Elsewhere
an equality sign stands within a text or bytes, and the mark that closes those stands
between the sign and the end.
-/

namespace FeatureGrant.Field

open FeatureGrant.Text

/-! ## Characters in front of a text -/

/-- Whether a character belongs to no number that ends a text: it is no digit, no
sign and no mark of a date, and does not come before a number. -/
def isCloser (c : Char) : Bool := !(c.isDigit || ['-', '@', '='].contains c)

theorem isOverlong_of_mem {s : List Char} {c : Char} (hmem : c ∈ s)
    (hc : isCloser c = true) : isOverlong s = false := by
  have hdigit : c.isDigit = false := by
    rw [isCloser, Bool.not_eq_true', Bool.or_eq_false_iff] at hc
    exact hc.1
  have hmem' : c ∈ (takeSign s).2 := by
    unfold takeSign
    split
    next rest =>
      refine (List.mem_cons.mp hmem).resolve_left ?_
      rintro rfl
      exact absurd hc (by decide)
    next => exact hmem
  rw [isOverlong, Bool.and_eq_false_iff, List.all_eq_false]
  exact Or.inr ⟨c, hmem', by rw [hdigit]; exact Bool.false_ne_true⟩

theorem endsOverlong_cons {c : Char} (hc : c ≠ '=') (rest : List Char) :
    endsOverlong (c :: rest) = endsOverlong rest := by
  rw [endsOverlong, beq_false_of_ne hc, Bool.false_and, Bool.false_or]

theorem endsOverlong_append {chars : List Char} (hchars : '=' ∉ chars)
    (rest : List Char) : endsOverlong (chars ++ rest) = endsOverlong rest := by
  induction chars with
  | nil => rfl
  | cons c tail ih =>
      rw [List.mem_cons, not_or] at hchars
      rw [List.cons_append, endsOverlong_cons (Ne.symm hchars.1), ih hchars.2]

/-- Behind a character that belongs to no number it does not matter what stands in
front of it. -/
theorem endsOverlong_append_cons {c : Char} (hc : isCloser c = true)
    (front rest : List Char) :
    endsOverlong (front ++ c :: rest) = endsOverlong rest := by
  induction front with
  | nil => exact endsOverlong_cons (ne_of_class hc (by decide)) rest
  | cons d tail ih =>
      have hmem : c ∈ tail ++ c :: rest := List.mem_append_right _ List.mem_cons_self
      have hdate : ((tail ++ c :: rest).head? == some '@' &&
          isOverlong (tail ++ c :: rest).tail) = false := by
        cases tail with
        | nil =>
            rw [List.nil_append, List.head?_cons, Bool.and_eq_false_iff]
            have hne : c ≠ '@' := ne_of_class hc (by decide)
            exact Or.inl (beq_false_of_ne fun h => hne (Option.some.inj h))
        | cons e others =>
            rw [List.cons_append, List.tail_cons, isOverlong_of_mem _ hc,
              Bool.and_false]
            exact List.mem_append_right _ List.mem_cons_self
      rw [List.cons_append, endsOverlong, isOverlong_of_mem hmem hc, hdate, ih,
        Bool.or_false, Bool.and_false, Bool.false_or]

theorem isCloser_of_mem_followers {c : Char} (hc : c ∈ followers) :
    isCloser c = true :=
  List.all_eq_true.mp (by decide : followers.all isCloser = true) c hc

theorem isCloser_of_isTokenStart {c : Char} (hc : isTokenStart c = true) :
    isCloser c = true := by
  have hminus : c ≠ '-' := ne_of_class hc (by decide)
  have hdate : c ≠ '@' := ne_of_class hc (by decide)
  have hequals : c ≠ '=' := ne_of_class hc (by decide)
  have hdigit : c.isDigit = false := by
    rw [Bool.eq_false_iff]
    intro hdigit
    rw [isTokenStart_of_isDigit hdigit] at hc
    cases hc
  rw [isCloser, hdigit, Bool.false_or, Bool.not_eq_true', ← Bool.not_eq_true,
    List.contains_iff_mem]
  simp [hminus, hdate, hequals]

/-! ## Values -/

variable {rules : Rules}

theorem FitsInteger.length_le (hrules : rules ≠ .lax) {digits rest : List Char}
    (hfits : FitsInteger rules digits rest) : digits.length ≤ 15 :=
  hfits.resolve_right fun h => hrules h.1

theorem endsOverlong_value {s : List Char} (hnumber : isOverlong s = false)
    (hdate : ∀ t, s = '@' :: t → isOverlong t = false)
    (hs : endsOverlong s = false) : endsOverlong ('=' :: s) = false := by
  rw [endsOverlong, hnumber, hs, Bool.or_false, Bool.false_or, Bool.and_eq_false_iff,
    Bool.and_eq_false_iff]
  cases s with
  | nil => exact Or.inr (Or.inl rfl)
  | cons c tail =>
      by_cases hc : c = '@'
      · subst hc
        exact Or.inr (Or.inr (hdate tail rfl))
      · exact Or.inr (Or.inl (beq_false_of_ne fun h => hc (Option.some.inj h)))

/-- An integer of fifteen digits at most is not too long. -/
theorem isOverlong_integer {digits rest : List Char} (negative : Bool)
    (hdigits : IsDigits digits) (hlength : digits.length ≤ 15)
    (hrest : StartsIn followers rest) :
    isOverlong (signChars negative ++ (digits ++ rest)) = false := by
  cases rest with
  | nil =>
      rw [isOverlong, takeSign_signChars negative hdigits, Bool.and_eq_false_iff,
        List.append_nil]
      exact Or.inl (beq_false_of_ne (show digits.length ≠ 16 by omega))
  | cons c tail =>
      have hc := isCloser_of_mem_followers (hrest c rfl)
      exact isOverlong_of_mem (by simp) hc

theorem endsOverlong_digits {digits : List Char} (negative : Bool)
    (hdigits : ∀ c ∈ digits, c.isDigit = true) (rest : List Char) :
    endsOverlong (signChars negative ++ (digits ++ rest)) = endsOverlong rest := by
  have hsign : '=' ∉ signChars negative := by
    cases negative with
    | false => decide
    | true => decide
  rw [endsOverlong_append hsign,
    endsOverlong_append fun h => absurd (hdigits '=' h) (by decide)]

theorem IsEscaped.exists_eq_append {s rest : List Char} {bytes : List UInt8}
    (hs : IsEscaped s bytes rest) : ∃ front, s = front ++ '"' :: rest := by
  induction hs with
  | close => exact ⟨[], rfl⟩
  | @escaped high low b s rest bytes _ _ ih =>
      obtain ⟨front, rfl⟩ := ih
      exact ⟨'%' :: high :: low :: front, rfl⟩
  | @plain c s rest bytes _ _ _ _ ih =>
      obtain ⟨front, rfl⟩ := ih
      exact ⟨c :: front, rfl⟩

/-- No value that stands behind an equality sign is too long. -/
theorem IsBareItem.endsOverlong_eq_false (hrules : rules ≠ .lax) {s rest : List Char}
    {item : BareItem} (hs : IsBareItem rules s item rest)
    (hrest : StartsIn followers rest) (hends : endsOverlong rest = false) :
    endsOverlong ('=' :: s) = false := by
  cases hs with
  | @integer negative digits _ hdigits hfits =>
      have hnumber := isOverlong_integer negative hdigits (hfits.length_le hrules) hrest
      refine endsOverlong_value hnumber ?_ ?_
      · intro t ht
        obtain ⟨c, tail, hcons, hc⟩ := exists_signed_eq_cons negative hdigits rest
        obtain ⟨rfl, -⟩ := List.cons.inj (hcons.symm.trans ht)
        exact absurd hc (by decide)
      · rw [endsOverlong_digits negative hdigits.all, hends]
  | @decimal negative whole fraction _ hwhole _ hfraction =>
      have hpoint := endsOverlong_append_cons (show isCloser '.' = true by decide)
        ('=' :: (signChars negative ++ whole)) (fraction ++ rest)
      have hfront : '=' :: (signChars negative ++ (whole ++ '.' :: (fraction ++ rest))) =
          '=' :: (signChars negative ++ whole) ++ '.' :: (fraction ++ rest) := by
        simp
      rw [hfront, hpoint,
        endsOverlong_append fun h => absurd (hfraction '=' h) (by decide), hends]
  | @text cs _ _ =>
      exact (endsOverlong_append_cons (by decide)
        ('=' :: '"' :: cs.flatMap quotedChars) rest).trans hends
  | @token c cs _ hc hcs =>
      have hbehind : endsOverlong (cs ++ rest) = false := by
        rw [endsOverlong_append fun h => absurd (hcs '=' h) (by decide), hends]
      exact (endsOverlong_append_cons (isCloser_of_isTokenStart hc) ['='] _).trans
        hbehind
  | @bytes encoded _ _ _ _ =>
      exact (endsOverlong_append_cons (by decide)
        ('=' :: ':' :: encoded) rest).trans hends
  | @boolean value _ =>
      have hvalue : (if value then '1' else '0') ≠ '=' := by
        cases value with
        | false => decide
        | true => decide
      exact (endsOverlong_append_cons (by decide) ['='] _).trans
        ((endsOverlong_cons hvalue rest).trans hends)
  | @date s _ seconds _ hs =>
      have hmark : isOverlong ('@' :: s) = false := by
        simp [isOverlong, takeSign]
      cases hs with
      | @integer negative digits _ hdigits hfits =>
          refine endsOverlong_value hmark ?_ ?_
          · intro t ht
            obtain ⟨-, rfl⟩ := List.cons.inj ht
            exact isOverlong_integer negative hdigits (hfits.length_le hrules) hrest
          · rw [endsOverlong_cons (by decide), endsOverlong_digits negative hdigits.all,
              hends]
  | @display s _ chars bytes _ hs =>
      obtain ⟨front, rfl⟩ := hs.exists_eq_append
      exact (endsOverlong_append_cons (by decide)
        ('=' :: '%' :: '"' :: front) rest).trans hends

/-! ## Dictionaries -/

theorem IsKeyed.endsOverlong_eq {s rest : List Char} {key : String}
    (hs : IsKeyed s key rest) : endsOverlong s = endsOverlong rest := by
  cases hs with
  | @key c cs _ hc hcs =>
      have hne : '=' ∉ c :: cs := by
        rintro (_ | ⟨_, h⟩)
        · exact absurd hc (by decide)
        · exact absurd (hcs '=' h) (by decide)
      exact endsOverlong_append hne rest

theorem AreSpaces.not_mem {spaces : List Char} (hspaces : AreSpaces spaces) :
    '=' ∉ spaces := fun h => absurd (hspaces '=' h) (by decide)

theorem AreBlanks.not_mem {blanks : List Char} (hblanks : AreBlanks blanks) :
    '=' ∉ blanks := fun h => absurd (hblanks '=' h) (by decide)

theorem AreParameters.endsOverlong_eq_false (hrules : rules ≠ .lax) {s rest : List Char}
    (hs : AreParameters rules s rest) (hrest : StartsIn closers rest)
    (hends : endsOverlong rest = false) : endsOverlong s = false := by
  induction hs with
  | none => exact hends
  | @flag spaces s t rest key hspaces hkey _ ih =>
      rw [endsOverlong_cons (by decide), endsOverlong_append hspaces.not_mem,
        hkey.endsOverlong_eq]
      exact ih hrest hends
  | @valued spaces s t u rest key item hspaces hkey hitem hu ih =>
      rw [endsOverlong_cons (by decide), endsOverlong_append hspaces.not_mem,
        hkey.endsOverlong_eq]
      exact hitem.endsOverlong_eq_false hrules (skipParameters_of_areParameters hu hrest).1
        (ih hrest hends)

theorem AreItems.exists_eq_append {s rest : List Char} {items : List BareItem}
    (hs : AreItems rules s items rest) : ∃ front, s = front ++ ')' :: rest := by
  induction hs with
  | @close spaces rest _ => exact ⟨spaces, rfl⟩
  | @item spaces s t rest item items _ hitem _ _ ih =>
      obtain ⟨front, rfl⟩ := ih
      obtain ⟨chars, rfl, -⟩ := hitem.soundUpTo
      exact ⟨spaces ++ (chars ++ front), by simp only [List.append_assoc]⟩

theorem IsMember.endsOverlong_eq_false (hrules : rules ≠ .lax) {s rest : List Char}
    {member : Member} (hs : IsMember rules s member rest)
    (hrest : StartsIn closers rest) (hends : endsOverlong rest = false) :
    endsOverlong s = false := by
  cases hs with
  | flag hs => exact hs.endsOverlong_eq_false hrules hrest hends
  | item hs =>
      obtain ⟨t, hbare, ht⟩ := hs
      exact hbare.endsOverlong_eq_false hrules (skipParameters_of_areParameters ht hrest).1
        (ht.endsOverlong_eq_false hrules hrest hends)
  | @innerList s t _ items hs ht =>
      obtain ⟨front, rfl⟩ := hs.exists_eq_append
      exact (endsOverlong_append_cons (by decide) ('=' :: '(' :: front) t).trans
        (ht.endsOverlong_eq_false hrules hrest hends)

theorem AreMembers.endsOverlong_eq_false (hrules : rules ≠ .lax) {s : List Char}
    {members : List (String × Member)} (hs : AreMembers rules s members) :
    endsOverlong s = false := by
  induction hs with
  | @last s t blanks key member hkey hmember hblanks =>
      have hclose := hblanks.startsIn (startsIn_nil closers)
      have hends := endsOverlong_append hblanks.not_mem []
      rw [List.append_nil] at hclose hends
      rw [hkey.endsOverlong_eq]
      exact hmember.endsOverlong_eq_false hrules hclose hends
  | @comma s t u blanks blanks' key member members hkey hmember hblanks hblanks' _ ih =>
      have hclose := hblanks.startsIn
        (startsIn_cons (show ',' ∈ closers by decide) (blanks' ++ u))
      rw [hkey.endsOverlong_eq]
      apply hmember.endsOverlong_eq_false hrules hclose
      rw [endsOverlong_append_cons (by decide), endsOverlong_append hblanks'.not_mem, ih]

/-- No dictionary ends in a number that is too long before a comma, unless it is one
by the rules that readers follow only. -/
theorem IsDictionary.endsOverlong_eq_false (hrules : rules ≠ .lax) {s : List Char}
    {members : List (String × Member)} (hs : IsDictionary rules s members) :
    endsOverlong s = false := by
  obtain ⟨spaces, t, rfl, hspaces, hmembers⟩ := hs
  rw [endsOverlong_append hspaces.not_mem]
  exact hmembers.endsOverlong_eq_false hrules

end FeatureGrant.Field
