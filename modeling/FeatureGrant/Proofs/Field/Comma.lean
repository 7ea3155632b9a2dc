import FeatureGrant.Field.Dictionary

/-!
# Values before a comma

Whatever a reader takes off the front of a text it takes off as well if a comma
and more text follow: no value goes on over a comma, and what was left of the
text is left with the rest behind it.

A number is the one exception.  It may have fifteen digits, but a sixteenth is
taken at the very end of a text, where a comma would make the number too long.
-/

namespace FeatureGrant.Field

open FeatureGrant.Text

/-! ## Numbers that are too long before a comma -/

/-- Whether a text is a number of sixteen digits. -/
def isOverlong (s : List Char) : Bool :=
  (takeSign s).2.length == 16 && (takeSign s).2.all (·.isDigit)

/-- Whether a text ends in a number of sixteen digits, which stands for a value
or, behind its sign, for a date. -/
def endsOverlong : List Char → Bool
  | [] => false
  | c :: rest =>
    (c == '=' && (isOverlong rest
      || (rest.head? == some '@' && isOverlong rest.tail)))
      || endsOverlong rest

theorem endsOverlong_of_suffix {s t : List Char} (hsuffix : t <:+ s)
    (hs : endsOverlong s = false) : endsOverlong t = false := by
  induction s with
  | nil => rwa [List.suffix_nil.mp hsuffix]
  | cons c rest ih =>
      rcases List.suffix_cons_iff.mp hsuffix with rfl | hrest
      · exact hs
      · exact ih hrest (Bool.or_eq_false_iff.mp hs).2

/-- Behind an equality sign neither a number nor a date is too long. -/
theorem isOverlong_of_endsOverlong {s : List Char}
    (hs : endsOverlong ('=' :: s) = false) :
    isOverlong s = false ∧ ∀ t, s = '@' :: t → isOverlong t = false := by
  simp only [endsOverlong, beq_self_eq_true, Bool.true_and,
    Bool.or_eq_false_iff] at hs
  refine ⟨hs.1.1, ?_⟩
  rintro t rfl
  simpa using hs.1.2

/-! ## Runs of characters -/

variable {c : Char} {p : Char → Bool}

theorem takeWhile_append_stop (hc : p c = false) (s more : List Char) :
    (s ++ c :: more).takeWhile p = s.takeWhile p := by
  induction s with
  | nil => simp [hc]
  | cons d rest ih => cases hd : p d <;> simp [hd, ih]

theorem dropWhile_append_stop (hc : p c = false) (s more : List Char) :
    (s ++ c :: more).dropWhile p = s.dropWhile p ++ c :: more := by
  induction s with
  | nil => simp [hc]
  | cons d rest ih => cases hd : p d <;> simp [hd, ih]

/-- A text that does not start with a character does not either if a comma and
more text follow. -/
theorem append_ne_cons (hc : c ≠ ',') {s : List Char}
    (hs : ∀ tail, s = c :: tail → False) (more tail : List Char) :
    s ++ ',' :: more = c :: tail → False := by
  intro heq
  cases s with
  | nil => exact hc (List.cons.inj heq).1.symm
  | cons d rest =>
      obtain ⟨rfl, -⟩ := List.cons.inj heq
      exact hs rest rfl

/-! ## Single values -/

/-- The value that was read off the front of `s`, with `rest` left, is read off
in the same way if a comma and more text follow. -/
structure Ends {α : Type} (read : List Char → Taken α) (s : List Char)
    (value : α) (rest : List Char) : Prop where
  suffix : rest <:+ s
  append (more : List Char) :
    read (s ++ ',' :: more) = some (value, rest ++ ',' :: more)

theorem ends_of_run {α : Type} {read : List Char → Taken α} {start : Char → Bool}
    (make : List Char → α) (hcomma : p ',' = false) (hnil : read [] = none)
    (hcons : ∀ c tail, read (c :: tail) =
      if start c then some (make (c :: tail.takeWhile p), tail.dropWhile p)
      else none)
    {s rest : List Char} {value : α} (hread : read s = some (value, rest)) :
    Ends read s value rest := by
  cases s with
  | nil => cases hnil.symm.trans hread
  | cons c tail =>
      rw [hcons] at hread
      split at hread
      next hstart =>
        obtain ⟨rfl, rfl⟩ := Prod.mk.inj (Option.some.inj hread)
        constructor
        · exact (List.dropWhile_suffix _).trans (List.suffix_cons c tail)
        · intro more
          rw [List.cons_append, hcons, if_pos hstart,
            takeWhile_append_stop hcomma, dropWhile_append_stop hcomma]
      next => cases hread

theorem ends_readKey {s rest : List Char} {key : String}
    (hread : readKey s = some (key, rest)) : Ends readKey s key rest :=
  ends_of_run (p := isKeyChar) String.ofList (by decide) rfl (fun _ _ => rfl) hread

theorem ends_readToken {s rest : List Char} {item : BareItem}
    (hread : readToken s = some (item, rest)) : Ends readToken s item rest :=
  ends_of_run (p := isTokenChar) (fun cs => .token (String.ofList cs)) (by decide)
    rfl (fun _ _ => rfl) hread

/-- A reader that leaves what follows some characters to another reader. -/
theorem Ends.over {α : Type} {read read' : List Char → Taken α}
    {tail rest : List Char} {value : α} (h : Ends read tail value rest)
    (front : List Char)
    (hfront : ∀ more, read' (front ++ (tail ++ ',' :: more)) =
      read (tail ++ ',' :: more)) :
    Ends read' (front ++ tail) value rest := by
  constructor
  · exact h.suffix.trans (List.suffix_append front tail)
  · intro more
    rw [List.append_assoc, hfront, h.append]

/-- A reader that leaves what follows some characters to another reader, and
makes its value of the other's. -/
theorem Ends.behind {α β : Type} {read : List Char → Taken α}
    {read' : List Char → Taken β} {tail rest : List Char} {value : α}
    (h : Ends read tail value rest) (front : List Char) (f : α → β)
    (hfront : ∀ more, read' (front ++ (tail ++ ',' :: more)) =
      (read (tail ++ ',' :: more)).map fun taken => (f taken.1, taken.2)) :
    Ends read' (front ++ tail) (f value) rest := by
  constructor
  · exact h.suffix.trans (List.suffix_append front tail)
  · intro more
    rw [List.append_assoc, hfront, h.append]
    rfl

theorem ends_readQuoted {s rest cs : List Char}
    (hread : readQuoted s = some (cs, rest)) : Ends readQuoted s cs rest := by
  fun_induction readQuoted s generalizing cs with
  | case1 => cases hread
  | case2 tail =>
      obtain ⟨rfl, rfl⟩ := Prod.mk.inj (Option.some.inj hread)
      exact ⟨List.suffix_cons '"' tail, fun more => rfl⟩
  | case3 => cases hread
  | case4 c tail hc ih =>
      obtain ⟨⟨cs', rest'⟩, htail, heq⟩ := Option.map_eq_some_iff.mp hread
      obtain ⟨rfl, rfl⟩ := Prod.mk.inj heq
      apply (ih htail).behind ['\\', c] (c :: ·)
      intro more
      rw [List.cons_append, List.singleton_append, readQuoted, if_pos hc]
  | case5 => cases hread
  | case6 c tail hquote hlast hescape hvisible ih =>
      obtain ⟨⟨cs', rest'⟩, htail, heq⟩ := Option.map_eq_some_iff.mp hread
      obtain ⟨rfl, rfl⟩ := Prod.mk.inj heq
      have hslash : c ≠ '\\' := by
        intro hc
        cases tail with
        | nil => exact hlast hc rfl
        | cons d rest => exact hescape d rest hc rfl
      apply (ih htail).behind [c] (c :: ·)
      intro more
      rw [List.singleton_append, readQuoted, if_pos hvisible]
      · exact hquote
      · exact fun hc _ => hslash hc
      · exact fun _ _ hc _ => hslash hc
  | case7 => cases hread

theorem ends_readEscaped {s rest : List Char} {bytes : List UInt8}
    (hread : readEscaped s = some (bytes, rest)) :
    Ends readEscaped s bytes rest := by
  fun_induction readEscaped s generalizing bytes with
  | case1 => cases hread
  | case2 tail =>
      obtain ⟨rfl, rfl⟩ := Prod.mk.inj (Option.some.inj hread)
      exact ⟨List.suffix_cons '"' tail, fun more => rfl⟩
  | case3 high low tail b hb ih =>
      obtain ⟨⟨bs, rest'⟩, htail, heq⟩ := Option.map_eq_some_iff.mp hread
      obtain ⟨rfl, rfl⟩ := Prod.mk.inj heq
      apply (ih htail).behind ['%', high, low] (b :: ·)
      intro more
      simp only [List.cons_append, List.nil_append, readEscaped, hb]
  | case4 => cases hread
  | case5 c tail hquote hescape hc ih =>
      obtain ⟨⟨bs, rest'⟩, htail, heq⟩ := Option.map_eq_some_iff.mp hread
      obtain ⟨rfl, rfl⟩ := Prod.mk.inj heq
      have hpercent : c ≠ '%' := bne_iff_ne.mp (Bool.and_eq_true_iff.mp hc).2
      apply (ih htail).behind [c] (UInt8.ofNat c.toNat :: ·)
      intro more
      rw [List.singleton_append, readEscaped, if_pos hc]
      · exact hquote
      · exact fun _ _ _ hc _ => hpercent hc
  | case6 => cases hread

/-! ## Numbers -/

theorem takeSign_suffix (s : List Char) : (takeSign s).2 <:+ s := by
  unfold takeSign
  split
  next rest => exact List.suffix_cons '-' rest
  next => exact List.suffix_rfl

theorem takeSign_append (s more : List Char) :
    takeSign (s ++ ',' :: more) =
      ((takeSign s).1, (takeSign s).2 ++ ',' :: more) := by
  cases s with
  | nil => rfl
  | cons c tail =>
      by_cases hc : c = '-'
      · subst hc
        rfl
      · rw [List.cons_append, takeSign, takeSign]
        · rfl
        · exact fun _ h => hc (List.cons.inj h).1
        · exact fun _ h => hc (List.cons.inj h).1

/-- The digits of a number that is followed by something, or is not too long,
are not sixteen. -/
theorem length_digits_ne {s : List Char}
    (hshort : ¬ ((s.takeWhile (·.isDigit)).length == 16
      && !(s.dropWhile (·.isDigit)).isEmpty) = true)
    (hlong : s.dropWhile (·.isDigit) = [] →
      (s.length == 16 && s.all (·.isDigit)) = false) :
    (s.takeWhile (·.isDigit)).length ≠ 16 := by
  intro hlength
  cases hrest : s.dropWhile (·.isDigit) with
  | nil =>
      have hall : s.takeWhile (·.isDigit) = s := by
        have happend := List.takeWhile_append_dropWhile (p := (·.isDigit)) (l := s)
        rwa [hrest, List.append_nil] at happend
      have hdigits := List.all_takeWhile (p := (·.isDigit)) (l := s)
      have hfalse := hlong hrest
      rw [hall] at hlength hdigits
      rw [hlength, hdigits] at hfalse
      cases hfalse
  | cons c behind =>
      rw [hlength, hrest] at hshort
      exact hshort rfl

theorem ends_readNumber {s rest : List Char} {item : BareItem}
    (hread : readNumber s = some (item, rest))
    (hlong : rest = [] → isOverlong s = false) :
    Ends readNumber s item rest := by
  have hsign := takeSign_suffix s
  have htake (t more : List Char) :
      (t ++ ',' :: more).takeWhile (·.isDigit) = t.takeWhile (·.isDigit) :=
    takeWhile_append_stop (by decide) t more
  have hdrop (t more : List Char) :
      (t ++ ',' :: more).dropWhile (·.isDigit) =
        t.dropWhile (·.isDigit) ++ ',' :: more :=
    dropWhile_append_stop (by decide) t more
  simp only [readNumber] at hread
  split at hread
  next => cases hread
  next hwhole =>
    split at hread
    next behind hbehind =>
      split at hread
      next => cases hread
      next hlength =>
        obtain ⟨rfl, rfl⟩ := Prod.mk.inj (Option.some.inj hread)
        constructor
        · have hpoint : behind <:+ (takeSign s).2 := by
            have hdigits := List.dropWhile_suffix (l := (takeSign s).2) (·.isDigit)
            rw [hbehind] at hdigits
            exact (List.suffix_cons '.' behind).trans hdigits
          exact ((List.dropWhile_suffix _).trans hpoint).trans hsign
        · intro more
          simp only [readNumber, takeSign_append, htake, hdrop, hbehind,
            List.cons_append]
          rw [if_neg hwhole, if_neg hlength]
    next hpoint =>
      split at hread
      next => cases hread
      next hlength =>
        obtain ⟨rfl, rfl⟩ := Prod.mk.inj (Option.some.inj hread)
        simp only [Bool.or_eq_true, not_or] at hlength
        obtain ⟨⟨hseventeen, hsixteen⟩, hvalue⟩ := hlength
        have hne := length_digits_ne hsixteen hlong
        constructor
        · exact (List.dropWhile_suffix _).trans hsign
        · intro more
          simp only [readNumber, takeSign_append, htake, hdrop]
          rw [if_neg hwhole]
          split
          next behind hbehind =>
            exact absurd hbehind (append_ne_cons (by decide) hpoint more behind)
          next =>
            rw [if_neg]
            simp [hne, hvalue, hseventeen]

/-! ## The other values -/

theorem ends_readBoolean {s rest : List Char} {item : BareItem}
    (hread : readBoolean s = some (item, rest)) :
    Ends readBoolean s item rest := by
  unfold readBoolean at hread
  split at hread
  next tail =>
    obtain ⟨rfl, rfl⟩ := Prod.mk.inj (Option.some.inj hread)
    exact ⟨List.suffix_cons '0' tail, fun _ => rfl⟩
  next tail =>
    obtain ⟨rfl, rfl⟩ := Prod.mk.inj (Option.some.inj hread)
    exact ⟨List.suffix_cons '1' tail, fun _ => rfl⟩
  next => cases hread

theorem takeWhile_append_of_dropWhile {s behind : List Char}
    (hdrop : s.dropWhile p = c :: behind) (more : List Char) :
    (s ++ more).takeWhile p = s.takeWhile p ∧
      (s ++ more).dropWhile p = c :: behind ++ more := by
  induction s with
  | nil => cases hdrop
  | cons d rest ih =>
      cases hd : p d with
      | true =>
          rw [List.dropWhile_cons_of_pos hd] at hdrop
          simp [hd, ih hdrop]
      | false =>
          have hneg : ¬ p d = true := by simp [hd]
          rw [List.dropWhile_cons_of_neg hneg] at hdrop
          simp [hd, ← hdrop]

theorem ends_readBytes {s rest : List Char} {item : BareItem}
    (hread : readBytes s = some (item, rest)) : Ends readBytes s item rest := by
  simp only [readBytes] at hread
  split at hread
  next => cases hread
  next colon behind hdrop =>
    split at hread
    next hencoded =>
      obtain ⟨bytes, hbytes, heq⟩ := Option.map_eq_some_iff.mp hread
      obtain ⟨rfl, rfl⟩ := Prod.mk.inj heq
      constructor
      · have hsuffix := List.dropWhile_suffix (l := s) (· != ':')
        rw [hdrop] at hsuffix
        exact (List.suffix_cons colon behind).trans hsuffix
      · intro more
        obtain ⟨htake, hdrop⟩ :=
          takeWhile_append_of_dropWhile hdrop (',' :: more)
        simp only [readBytes, htake, hdrop, List.cons_append]
        rw [if_pos hencoded, hbytes]
        rfl
    next => cases hread

theorem ends_readDate {s rest : List Char} {item : BareItem}
    (hread : readDate s = some (item, rest))
    (hlong : rest = [] → isOverlong s = false) : Ends readDate s item rest := by
  unfold readDate at hread
  split at hread
  next seconds behind hnumber =>
    split at hread
    next hrange =>
      obtain ⟨rfl, rfl⟩ := Prod.mk.inj (Option.some.inj hread)
      have h := ends_readNumber hnumber hlong
      refine ⟨h.suffix, fun more => ?_⟩
      rw [readDate, h.append]
      exact if_pos hrange
    next => cases hread
  next => cases hread

theorem ends_readDisplay {s rest : List Char} {item : BareItem}
    (hread : readDisplay s = some (item, rest)) :
    Ends readDisplay s item rest := by
  unfold readDisplay at hread
  split at hread
  next tail =>
    split at hread
    next => cases hread
    next bytes behind hescaped =>
      split at hread
      next chars hchars =>
        obtain ⟨rfl, rfl⟩ := Prod.mk.inj (Option.some.inj hread)
        have h := ends_readEscaped hescaped
        refine ⟨h.suffix.trans (List.suffix_cons '"' tail), fun more => ?_⟩
        simp only [List.cons_append, readDisplay, h.append, hchars]
      next => cases hread
  next => cases hread

/-- A single value ends before a comma, unless it is too long a number. -/
theorem ends_readBareItem {s rest : List Char} {item : BareItem}
    (hread : readBareItem s = some (item, rest))
    (hlong : rest = [] → endsOverlong ('=' :: s) = false) :
    Ends readBareItem s item rest := by
  have hnumber (hrest : rest = []) := isOverlong_of_endsOverlong (hlong hrest)
  cases s with
  | nil => cases hread
  | cons c tail =>
      rw [readBareItem] at hread
      split at hread
      next hc =>
        obtain ⟨⟨cs, rest'⟩, htail, heq⟩ := Option.map_eq_some_iff.mp hread
        obtain ⟨rfl, rfl⟩ := Prod.mk.inj heq
        apply (ends_readQuoted htail).behind [c]
          fun cs => BareItem.text (String.ofList cs)
        intro more
        rw [List.singleton_append, readBareItem, if_pos hc]
      next hquote =>
        split at hread
        next hc =>
          apply (ends_readToken hread).over []
          intro more
          rw [List.nil_append, List.cons_append, readBareItem, if_neg hquote,
            if_pos hc]
        next htoken =>
          split at hread
          next hc =>
            apply (ends_readNumber hread fun h => (hnumber h).1).over []
            intro more
            rw [List.nil_append, List.cons_append, readBareItem, if_neg hquote,
              if_neg htoken, if_pos hc]
          next hdigit =>
            split at hread
            next hc =>
              apply (ends_readBoolean hread).over [c]
              intro more
              rw [List.singleton_append, readBareItem, if_neg hquote,
                if_neg htoken, if_neg hdigit, if_pos hc]
            next hboolean =>
              split at hread
              next hc =>
                apply (ends_readBytes hread).over [c]
                intro more
                rw [List.singleton_append, readBareItem, if_neg hquote,
                  if_neg htoken, if_neg hdigit, if_neg hboolean, if_pos hc]
              next hbytes =>
                split at hread
                next hc =>
                  have hdate (h : rest = []) : isOverlong tail = false :=
                    (hnumber h).2 tail (by rw [beq_iff_eq.mp hc])
                  apply (ends_readDate hread hdate).over [c]
                  intro more
                  rw [List.singleton_append, readBareItem, if_neg hquote,
                    if_neg htoken, if_neg hdigit, if_neg hboolean,
                    if_neg hbytes, if_pos hc]
                next hdate =>
                  split at hread
                  next hc =>
                    apply (ends_readDisplay hread).over [c]
                    intro more
                    rw [List.singleton_append, readBareItem, if_neg hquote,
                      if_neg htoken, if_neg hdigit, if_neg hboolean,
                      if_neg hbytes, if_neg hdate, if_pos hc]
                  next => cases hread

/-! ## Parameters and members -/

/-- What is left behind skipped characters is left before a comma as well. -/
structure Stops (skip : List Char → Option (List Char)) (s rest : List Char) :
    Prop where
  suffix : rest <:+ s
  append (more : List Char) :
    skip (s ++ ',' :: more) = some (rest ++ ',' :: more)

theorem stops_skipParameterValue {s rest : List Char}
    (hskip : skipParameterValue s = some rest)
    (hlong : rest = [] → endsOverlong s = false) :
    Stops skipParameterValue s rest := by
  unfold skipParameterValue at hskip
  split at hskip
  next tail =>
    obtain ⟨⟨item, rest'⟩, hread, rfl⟩ := Option.map_eq_some_iff.mp hskip
    have h := ends_readBareItem hread hlong
    refine ⟨h.suffix.trans (List.suffix_cons '=' tail), fun more => ?_⟩
    rw [List.cons_append, skipParameterValue, h.append]
    rfl
  next hvalue =>
    obtain rfl := Option.some.inj hskip
    refine ⟨List.suffix_rfl, fun more => ?_⟩
    rw [skipParameterValue]
    exact append_ne_cons (by decide) hvalue more

theorem skipSpaces_append (s more : List Char) :
    skipSpaces (s ++ ',' :: more) = skipSpaces s ++ ',' :: more :=
  dropWhile_append_stop (by decide) s more

theorem skipSpaces_suffix (s : List Char) : skipSpaces s <:+ s :=
  List.dropWhile_suffix _

theorem skipParameters_semicolon {behind afterKey rest : List Char}
    {key : String} (hkey : readKey (skipSpaces behind) = some (key, afterKey))
    (hvalue : skipParameterValue afterKey = some rest) :
    skipParameters (';' :: behind) = skipParameters rest := by
  rw [skipParameters]
  split
  next hnone => cases hnone.symm.trans hkey
  next key' afterKey' hkey' =>
    obtain ⟨-, rfl⟩ := Prod.mk.inj (Option.some.inj (hkey.symm.trans hkey'))
    split
    next hnone => cases hnone.symm.trans hvalue
    next rest' hvalue' =>
      rw [Option.some.inj (hvalue.symm.trans hvalue')]

theorem skipParameters_of_ne {s : List Char}
    (hs : ∀ behind, s = ';' :: behind → False) : skipParameters s = some s := by
  rw [skipParameters]
  exact hs

theorem stops_skipParameters {s rest : List Char}
    (hskip : skipParameters s = some rest)
    (hlong : endsOverlong s = false) : Stops skipParameters s rest := by
  fun_induction skipParameters s with
  | case1 => cases hskip
  | case2 => cases hskip
  | case3 behind key afterKey hkey rest' hvalue ih =>
      have hends := ends_readKey hkey
      have hafter : afterKey <:+ ';' :: behind :=
        (hends.suffix.trans (skipSpaces_suffix behind)).trans
          (List.suffix_cons ';' behind)
      have hstops := stops_skipParameterValue hvalue
        fun _ => endsOverlong_of_suffix hafter hlong
      have hrest : rest' <:+ ';' :: behind := hstops.suffix.trans hafter
      have h := ih hskip (endsOverlong_of_suffix hrest hlong)
      refine ⟨h.suffix.trans hrest, fun more => ?_⟩
      have hkey' : readKey (skipSpaces (behind ++ ',' :: more)) =
          some (key, afterKey ++ ',' :: more) := by
        rw [skipSpaces_append, hends.append]
      rw [List.cons_append, skipParameters_semicolon hkey' (hstops.append more),
        h.append]
  | case4 s hs =>
      obtain rfl := Option.some.inj hskip
      exact ⟨List.suffix_rfl, fun more =>
        skipParameters_of_ne (append_ne_cons (by decide) hs more)⟩

/-- An item with its parameters ends before a comma. -/
theorem ends_readItem {s rest : List Char} {item : BareItem}
    (hread : readItem s = some (item, rest)) (hs : endsOverlong s = false)
    (hlong : rest = [] → endsOverlong ('=' :: s) = false) :
    Ends readItem s item rest := by
  unfold readItem at hread
  split at hread
  next => cases hread
  next item' behind hitem =>
    obtain ⟨rest', hskip, heq⟩ := Option.map_eq_some_iff.mp hread
    obtain ⟨rfl, rfl⟩ := Prod.mk.inj heq
    have hbehind : behind = [] → rest' = [] := by
      rintro rfl
      have hnil : skipParameters [] = some [] :=
        skipParameters_of_ne fun behind h => List.cons_ne_nil _ behind h.symm
      exact (Option.some.inj (hnil.symm.trans hskip)).symm
    have hends := ends_readBareItem hitem fun h => hlong (hbehind h)
    have hstops := stops_skipParameters hskip
      (endsOverlong_of_suffix hends.suffix hs)
    refine ⟨hstops.suffix.trans hends.suffix, fun more => ?_⟩
    rw [readItem, hends.append]
    dsimp only
    rw [hstops.append]
    rfl

theorem readItems_close {s tail : List Char} (hs : skipSpaces s = ')' :: tail) :
    readItems s = some ([], tail) := by
  rw [readItems]
  split
  next hnil => cases hnil.symm.trans hs
  next c tail' hcons =>
    obtain ⟨rfl, rfl⟩ := List.cons.inj (hcons.symm.trans hs)
    exact if_pos rfl

theorem readItems_cons {s tail rest : List Char} {c : Char} {item : BareItem}
    (hs : skipSpaces s = c :: tail) (hc : ¬ (c == ')') = true)
    (hitem : readItem (c :: tail) = some (item, rest))
    (hend : (rest.head? == some ' ' || rest.head? == some ')') = true) :
    readItems s =
      (readItems rest).map fun taken => (item :: taken.1, taken.2) := by
  rw [readItems]
  split
  next hnil => cases hnil.symm.trans hs
  next c' tail' hcons =>
    obtain ⟨rfl, rfl⟩ := List.cons.inj (hcons.symm.trans hs)
    rw [if_neg hc]
    split
    next hnone => cases hnone.symm.trans hitem
    next item' rest' hitem' =>
      obtain ⟨rfl, rfl⟩ := Prod.mk.inj (Option.some.inj (hitem.symm.trans hitem'))
      rw [if_pos hend]

/-- An inner list ends before a comma. What follows an item in it is never the
end of the text, so its numbers are not in question. -/
theorem ends_readItems {s rest : List Char} {items : List BareItem}
    (hread : readItems s = some (items, rest)) (hs : endsOverlong s = false) :
    Ends readItems s items rest := by
  fun_induction readItems s generalizing items with
  | case1 => cases hread
  | case2 s c tail hspaces hclose =>
      obtain ⟨rfl, rfl⟩ := Prod.mk.inj (Option.some.inj hread)
      obtain rfl := beq_iff_eq.mp hclose
      have hsuffix := skipSpaces_suffix s
      rw [hspaces] at hsuffix
      refine ⟨(List.suffix_cons ')' tail).trans hsuffix, fun more => ?_⟩
      apply readItems_close
      rw [skipSpaces_append, hspaces, List.cons_append]
  | case3 => cases hread
  | case4 s c tail hspaces hclose item behind hitem hend ih =>
      obtain ⟨⟨items', rest'⟩, hrest, heq⟩ := Option.map_eq_some_iff.mp hread
      obtain ⟨rfl, rfl⟩ := Prod.mk.inj heq
      have hsuffix := skipSpaces_suffix s
      rw [hspaces] at hsuffix
      have hne : behind ≠ [] := by
        rintro rfl
        cases hend
      have hends := ends_readItem hitem (endsOverlong_of_suffix hsuffix hs)
        fun h => absurd h hne
      have hbehind := hends.suffix.trans hsuffix
      have h := ih hrest (endsOverlong_of_suffix hbehind hs)
      refine ⟨h.suffix.trans hbehind, fun more => ?_⟩
      have hskip : skipSpaces (s ++ ',' :: more) = c :: (tail ++ ',' :: more) := by
        rw [skipSpaces_append, hspaces, List.cons_append]
      rw [readItems_cons hskip hclose (hends.append more), h.append]
      · rfl
      · cases behind with
        | nil => exact absurd rfl hne
        | cons d behind => exact hend
  | case5 => cases hread

/-- The value of a key ends before a comma. -/
theorem ends_readMember {s rest : List Char} {member : Member}
    (hread : readMember s = some (member, rest))
    (hs : endsOverlong s = false) : Ends readMember s member rest := by
  unfold readMember at hread
  split at hread
  next tail =>
    split at hread
    next => cases hread
    next items behind hitems =>
      obtain ⟨rest', hskip, heq⟩ := Option.map_eq_some_iff.mp hread
      obtain ⟨rfl, rfl⟩ := Prod.mk.inj heq
      have htail : tail <:+ '=' :: '(' :: tail :=
        (List.suffix_cons '(' tail).trans (List.suffix_cons '=' _)
      have hends := ends_readItems hitems (endsOverlong_of_suffix htail hs)
      have hbehind := hends.suffix.trans htail
      have hstops := stops_skipParameters hskip
        (endsOverlong_of_suffix hbehind hs)
      refine ⟨hstops.suffix.trans hbehind, fun more => ?_⟩
      simp only [List.cons_append, readMember, hends.append, hstops.append]
      rfl
  next tail hparen =>
    obtain ⟨⟨item, rest'⟩, hitem, heq⟩ := Option.map_eq_some_iff.mp hread
    obtain ⟨rfl, rfl⟩ := Prod.mk.inj heq
    have hends := ends_readItem hitem
      (endsOverlong_of_suffix (List.suffix_cons '=' tail) hs) fun _ => hs
    apply hends.behind ['='] Member.item
    intro more
    rw [List.singleton_append, readMember]
    exact append_ne_cons (by decide) hparen more
  next hlist hitem =>
    obtain ⟨rest', hskip, heq⟩ := Option.map_eq_some_iff.mp hread
    obtain ⟨rfl, rfl⟩ := Prod.mk.inj heq
    have hstops := stops_skipParameters hskip hs
    refine ⟨hstops.suffix, fun more => ?_⟩
    have hne := append_ne_cons (by decide) hitem more
    rw [readMember, hstops.append]
    · rfl
    · exact fun tail heq => hne _ heq
    · exact hne

/-! ## Dictionaries -/

theorem skipBlanks_append (s more : List Char) :
    skipBlanks (s ++ ',' :: more) = skipBlanks s ++ ',' :: more :=
  dropWhile_append_stop (by decide) s more

theorem skipBlanks_suffix (s : List Char) : skipBlanks s <:+ s :=
  List.dropWhile_suffix _

theorem readMembers_comma {s afterKey afterMember behind : List Char}
    {key : String} {member : Member} (hkey : readKey s = some (key, afterKey))
    (hmember : readMember afterKey = some (member, afterMember))
    (hcomma : skipBlanks afterMember = ',' :: behind) :
    readMembers s =
      (readMembers (skipBlanks behind)).map ((key, member) :: ·) := by
  rw [readMembers]
  split
  next hnone => cases hnone.symm.trans hkey
  next key' afterKey' hkey' =>
    obtain ⟨rfl, rfl⟩ := Prod.mk.inj (Option.some.inj (hkey.symm.trans hkey'))
    split
    next hnone => cases hnone.symm.trans hmember
    next member' afterMember' hmember' =>
      obtain ⟨rfl, rfl⟩ :=
        Prod.mk.inj (Option.some.inj (hmember.symm.trans hmember'))
      split
      next hnil => cases hnil.symm.trans hcomma
      next behind' hcomma' =>
        rw [(List.cons.inj (hcomma.symm.trans hcomma')).2]
      next hother => exact absurd hcomma (hother behind)

theorem readMembers_append {s t : List Char}
    {first second : List (String × Member)}
    (hread : readMembers s = some first) (hs : endsOverlong s = false)
    (ht : readMembers (skipBlanks t) = some second) :
    readMembers (s ++ ',' :: t) = some (first ++ second) := by
  fun_induction readMembers s generalizing first with
  | case1 => cases hread
  | case2 => cases hread
  | case3 s key afterKey hkey member afterMember hmember hblanks =>
      obtain rfl := Option.some.inj hread
      have hends := ends_readKey hkey
      have hmember' := ends_readMember hmember
        (endsOverlong_of_suffix hends.suffix hs)
      have hcomma : skipBlanks (afterMember ++ ',' :: t) = ',' :: t := by
        rw [skipBlanks_append, hblanks, List.nil_append]
      rw [readMembers_comma (hends.append t) (hmember'.append t) hcomma, ht]
      rfl
  | case4 s key afterKey hkey member afterMember hmember behind hblanks ih =>
      obtain ⟨rest, hrest, rfl⟩ := Option.map_eq_some_iff.mp hread
      have hends := ends_readKey hkey
      have hmember' := ends_readMember hmember
        (endsOverlong_of_suffix hends.suffix hs)
      have hbehind : behind <:+ s := by
        have hsuffix := skipBlanks_suffix afterMember
        rw [hblanks] at hsuffix
        exact (((List.suffix_cons ',' behind).trans hsuffix).trans
          hmember'.suffix).trans hends.suffix
      have hcomma : skipBlanks (afterMember ++ ',' :: t) =
          ',' :: (behind ++ ',' :: t) := by
        rw [skipBlanks_append, hblanks, List.cons_append]
      have hagain := ih hrest
        (endsOverlong_of_suffix ((skipBlanks_suffix behind).trans hbehind) hs)
      rw [readMembers_comma (hends.append t) (hmember'.append t) hcomma,
        skipBlanks_append, hagain]
      rfl
  | case5 => cases hread

theorem isKeyStart_of_readMembers {c : Char} {rest : List Char}
    {members : List (String × Member)}
    (hread : readMembers (c :: rest) = some members) : isKeyStart c = true := by
  rw [readMembers] at hread
  split at hread
  next => cases hread
  next key afterKey hkey =>
    rw [readKey] at hkey
    split at hkey
    next hstart => exact hstart
    next => cases hkey

/-- A dictionary starts with a key, so blanks of any kind may be skipped before
it where spaces may. -/
theorem readMembers_skipBlanks {s : List Char} {members : List (String × Member)}
    (hread : readDictionary s = some members) :
    readMembers (skipBlanks s) = some members := by
  induction s with
  | nil => exact hread
  | cons c rest ih =>
      by_cases hspace : c = ' '
      · subst hspace
        exact ih hread
      · have hstay : skipSpaces (c :: rest) = c :: rest :=
          List.dropWhile_cons_of_neg (by simpa using hspace)
        rw [readDictionary, hstay] at hread
        have htab : c ≠ '\t' := by
          rintro rfl
          exact absurd (isKeyStart_of_readMembers hread) (by decide)
        have hkeep : skipBlanks (c :: rest) = c :: rest :=
          List.dropWhile_cons_of_neg (by simp [hspace, htab])
        rw [hkeep, hread]

/-- Two dictionaries with a comma between them are one. -/
theorem readDictionary_append {s t : List Char}
    {first second : List (String × Member)}
    (hs : readDictionary s = some first) (hlong : endsOverlong s = false)
    (ht : readDictionary t = some second) :
    readDictionary (s ++ ',' :: t) = some (first ++ second) := by
  rw [readDictionary, skipSpaces_append]
  exact readMembers_append hs
    (endsOverlong_of_suffix (skipSpaces_suffix s) hlong)
    (readMembers_skipBlanks ht)

end FeatureGrant.Field
