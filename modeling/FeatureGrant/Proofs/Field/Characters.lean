import FeatureGrant.Proofs.Field.Grammar
import FeatureGrant.Proofs.Listing
import FeatureGrant.Proofs.Text.Letters
import Mathlib.Data.List.Basic

/-!
# The characters of a dictionary

Tabs and printable ASCII are all that a structured field may hold.  Nor does a
dictionary by the rules that readers follow hold anything else, but for one gap: in
an escape of a display text, a blank of any kind is taken for one of the two
digits.  The rules without display texts leave no gap.

Each rule of the grammar adds characters in front of a rest.  What is added is
sound at every place, and this is kept when one rule follows the other.
-/

namespace FeatureGrant.Field

open FeatureGrant.Text

/-! ## Sound places -/

/-- Whether a character may stand in a structured field: a tab or printable
ASCII. -/
def isFieldChar (c : Char) : Bool := c == '\t' || isVisible c

/-- Whether a character is a line feed, a vertical tab, a form feed or a carriage
return. -/
def isBreak (c : Char) : Bool := 0xA ≤ c.toNat && c.toNat ≤ 0xD

/-- Whether the place between two texts is one of the two behind a percent sign
in a display text: the display text was opened and not closed again, and a
hexadecimal digit stands in the other place. -/
def InEscape (before after : List Char) : Prop :=
  ∃ outer body, '"' ∉ body ∧
    ((before = outer ++ '%' :: '"' :: body ++ ['%'] ∧
        ∃ low ∈ after.head?, (lowerHexValue? low).isSome = true) ∨
      ∃ high, before = outer ++ '%' :: '"' :: body ++ ['%', high] ∧
        (lowerHexValue? high).isSome = true)

/-- Whether a character is sound between two texts: it may stand in a structured
field, or it is a line break in the place of a digit, if there are display
texts. -/
def IsSound (rules : Rules) (before : List Char) (c : Char) (after : List Char) :
    Prop :=
  isFieldChar c = true ∨ rules ≠ .plain ∧ isBreak c = true ∧ InEscape before after

/-- Whether all characters of a text behind `front` are sound. -/
def AreSound (rules : Rules) (front s : List Char) : Prop :=
  ∀ before c after, s = before ++ c :: after →
    IsSound rules (front ++ before) c after

/-- Whether a text goes on to `rest` in sound characters. -/
def SoundUpTo (rules : Rules) (s rest : List Char) : Prop :=
  ∃ chars, s = chars ++ rest ∧ AreSound rules [] chars

variable {rules : Rules}

theorem InEscape.widen {before after : List Char} (h : InEscape before after)
    (front back : List Char) : InEscape (front ++ before) (after ++ back) := by
  obtain ⟨outer, body, hbody, hplace⟩ := h
  refine ⟨front ++ outer, body, hbody, ?_⟩
  rcases hplace with ⟨rfl, low, hlow, hhex⟩ | ⟨high, rfl, hhex⟩
  · refine Or.inl ⟨by simp only [List.append_assoc], low, ?_, hhex⟩
    cases after with
    | nil => exact nomatch hlow
    | cons c rest => exact hlow
  · exact Or.inr ⟨high, by simp only [List.append_assoc], hhex⟩

theorem IsSound.widen {before after : List Char} {c : Char}
    (h : IsSound rules before c after) (front back : List Char) :
    IsSound rules (front ++ before) c (after ++ back) := by
  rcases h with hfield | ⟨hrules, hbreak, hplace⟩
  · exact Or.inl hfield
  · exact Or.inr ⟨hrules, hbreak, hplace.widen front back⟩

theorem areSound_nil (front : List Char) : AreSound rules front [] := by
  intro before c after h
  exact absurd h.symm (List.append_ne_nil_of_right_ne_nil _ (List.cons_ne_nil _ _))

theorem areSound_of_forall {s : List Char}
    (hs : ∀ c ∈ s, isFieldChar c = true) (front : List Char) :
    AreSound rules front s := by
  rintro before c after rfl
  exact Or.inl (hs c (List.mem_append_right _ List.mem_cons_self))

/-- What is sound behind one text is sound behind a longer one. -/
theorem AreSound.behind {s : List Char} (hs : AreSound rules [] s)
    (front : List Char) : AreSound rules front s := by
  intro before c after h
  have hwide := (hs before c after h).widen front []
  rwa [List.append_nil] at hwide

theorem AreSound.append {front s t : List Char} (hs : AreSound rules front s)
    (ht : AreSound rules (front ++ s) t) : AreSound rules front (s ++ t) := by
  intro before c after h
  rcases List.append_eq_append_iff.mp h with ⟨more, rfl, hmore⟩ | ⟨more, rfl, hmore⟩
  · rw [← List.append_assoc]
    exact ht more c after hmore
  · cases more with
    | nil =>
        rw [List.nil_append] at hmore
        have hsound := ht [] c after hmore.symm
        simpa only [List.append_nil] using hsound
    | cons d tail =>
        obtain ⟨rfl, rfl⟩ := List.cons.inj hmore
        exact (hs before c tail rfl).widen [] t

theorem areSound_cons {front s : List Char} {c : Char}
    (hc : IsSound rules front c s) (hs : AreSound rules (front ++ [c]) s) :
    AreSound rules front (c :: s) := by
  intro before d after h
  cases before with
  | nil =>
      obtain ⟨rfl, rfl⟩ := List.cons.inj h
      rwa [List.append_nil]
  | cons e tail =>
      obtain ⟨rfl, hrest⟩ := List.cons.inj h
      have hsound := hs tail d after hrest
      rwa [List.append_assoc, List.singleton_append] at hsound

theorem SoundUpTo.refl (s : List Char) : SoundUpTo rules s s :=
  ⟨[], rfl, areSound_nil []⟩

theorem SoundUpTo.trans {s t u : List Char} (hst : SoundUpTo rules s t)
    (htu : SoundUpTo rules t u) : SoundUpTo rules s u := by
  obtain ⟨first, rfl, hfirst⟩ := hst
  obtain ⟨second, rfl, hsecond⟩ := htu
  exact ⟨first ++ second, (List.append_assoc _ _ _).symm,
    hfirst.append (hsecond.behind _)⟩

theorem soundUpTo_append {chars : List Char}
    (hchars : ∀ c ∈ chars, isFieldChar c = true) (rest : List Char) :
    SoundUpTo rules (chars ++ rest) rest :=
  ⟨chars, rfl, areSound_of_forall hchars []⟩

theorem soundUpTo_cons {c : Char} (hc : isFieldChar c = true)
    (rest : List Char) : SoundUpTo rules (c :: rest) rest :=
  soundUpTo_append (List.forall_mem_singleton.mpr hc) rest

/-! ## Characters of a class -/

theorem isVisible_iff_code {c : Char} :
    isVisible c = true ↔ 0x20 ≤ c.toNat ∧ c.toNat ≤ 0x7E := by
  rw [isVisible, Bool.and_eq_true, decide_eq_true_iff, decide_eq_true_iff]

theorem isFieldChar_of_isVisible {c : Char} (hc : isVisible c = true) :
    isFieldChar c = true := by
  rw [isFieldChar, hc, Bool.or_true]

theorem isFieldChar_of_isDigit {c : Char} (hc : c.isDigit = true) :
    isFieldChar c = true := by
  have hcode := isDigit_iff_code.mp hc
  exact isFieldChar_of_isVisible (isVisible_iff_code.mpr (by omega))

theorem isFieldChar_of_isAlpha {c : Char} (hc : c.isAlpha = true) :
    isFieldChar c = true := by
  have hcode := isAlpha_iff_code.mp hc
  exact isFieldChar_of_isVisible (isVisible_iff_code.mpr (by omega))

theorem isFieldChar_of_isKeyChar {c : Char} (hc : isKeyChar c = true) :
    isFieldChar c = true := by
  simp only [isKeyChar, Bool.or_eq_true, beq_iff_eq] at hc
  rcases hc with ((((hlower | hdigit) | rfl) | rfl) | rfl) | rfl
  · apply isFieldChar_of_isAlpha
    exact isAlpha_iff_code.mpr (Or.inr (isLower_iff_code.mp hlower))
  · exact isFieldChar_of_isDigit hdigit
  · rfl
  · rfl
  · rfl
  · rfl

theorem isKeyChar_of_isKeyStart {c : Char} (hc : isKeyStart c = true) :
    isKeyChar c = true := by
  rw [isKeyStart, Bool.or_eq_true, beq_iff_eq] at hc
  rcases hc with hlower | rfl
  · simp only [isKeyChar, hlower, Bool.true_or]
  · rfl

theorem isFieldChar_of_isTokenChar {c : Char} (hc : isTokenChar c = true) :
    isFieldChar c = true := by
  rw [isTokenChar, Bool.or_eq_true, Char.isAlphanum, Bool.or_eq_true] at hc
  rcases hc with (halpha | hdigit) | hsign
  · exact isFieldChar_of_isAlpha halpha
  · exact isFieldChar_of_isDigit hdigit
  · have hall : (":/!#$%&'*+-.^_\x60|~".toList.all isFieldChar) = true := by decide
    exact List.all_eq_true.mp hall c (List.contains_iff_mem.mp hsign)

theorem isFieldChar_of_isTokenStart {c : Char} (hc : isTokenStart c = true) :
    isFieldChar c = true := by
  rw [isTokenStart, Bool.or_eq_true, beq_iff_eq] at hc
  rcases hc with halpha | rfl
  · exact isFieldChar_of_isAlpha halpha
  · rfl

theorem isVisible_of_between {first last c : Char}
    (hfirst : 0x20 ≤ first.toNat) (hlast : last.toNat ≤ 0x7E)
    (hc : (decide (first ≤ c) && decide (c ≤ last)) = true) :
    isVisible c = true := by
  rw [Bool.and_eq_true, decide_eq_true_iff, decide_eq_true_iff] at hc
  have hlow : first.toNat ≤ c.toNat := UInt32.le_iff_toNat_le.mp hc.1
  have hhigh : c.toNat ≤ last.toNat := UInt32.le_iff_toNat_le.mp hc.2
  exact isVisible_iff_code.mpr ⟨by omega, by omega⟩

theorem isVisible_of_sextet? {c : Char} (hc : (sextet? c).isSome = true) :
    isVisible c = true := by
  unfold sextet? at hc
  split at hc
  next hupper => exact isVisible_of_between (by decide) (by decide) hupper
  next =>
    split at hc
    next hlower => exact isVisible_of_between (by decide) (by decide) hlower
    next =>
      split at hc
      next hdigit => exact isVisible_of_between (by decide) (by decide) hdigit
      next =>
        split at hc
        next hplus => rw [beq_iff_eq.mp hplus]; rfl
        next =>
          split at hc
          next hslash => rw [beq_iff_eq.mp hslash]; rfl
          next => exact nomatch hc

theorem isFieldChar_of_isBase64Char {c : Char} (hc : IsBase64Char c) :
    isFieldChar c = true := by
  rcases hc with hsextet | rfl
  · exact isFieldChar_of_isVisible (isVisible_of_sextet? hsextet)
  · rfl

theorem isFieldChar_of_mem_quotedChars {c d : Char} (hc : isVisible c = true)
    (hd : d ∈ quotedChars c) : isFieldChar d = true := by
  unfold quotedChars at hd
  split at hd
  next =>
    rcases List.mem_pair.mp hd with rfl | rfl
    · rfl
    · exact isFieldChar_of_isVisible hc
  next =>
    rw [List.mem_singleton.mp hd]
    exact isFieldChar_of_isVisible hc

/-! ## Escapes -/

/-- A digit of an escape is printable, and no quotation mark. -/
theorem isVisible_of_lowerHexValue? {c : Char}
    (hc : (lowerHexValue? c).isSome = true) : isVisible c = true ∧ c ≠ '"' := by
  have hne : c ≠ '"' := by
    rintro rfl
    exact absurd hc (by decide)
  refine ⟨?_, hne⟩
  unfold lowerHexValue? at hc
  split at hc
  next hdigit =>
    have hcode := isDigit_iff_code.mp hdigit
    exact isVisible_iff_code.mpr (by omega)
  next =>
    split at hc
    next hletter => exact isVisible_of_between (by decide) (by decide) hletter
    next => exact nomatch hc

theorem isFieldChar_or_isBreak_of_isAsciiBlank {c : Char}
    (hc : isAsciiBlank c = true) :
    (isFieldChar c = true ∨ isBreak c = true) ∧ c ≠ '"' := by
  have hne : c ≠ '"' := by
    rintro rfl
    exact absurd hc (by decide)
  refine ⟨?_, hne⟩
  rw [isAsciiBlank, Bool.or_eq_true, Bool.and_eq_true, decide_eq_true_iff,
    decide_eq_true_iff, beq_iff_eq] at hc
  rcases hc with ⟨hfirst, hlast⟩ | hspace
  · by_cases htab : c.toNat = '\t'.toNat
    · rw [Char.toNat_inj.mp htab]
      exact Or.inl rfl
    · have hcode : c.toNat ≠ 9 := htab
      right
      rw [isBreak, Bool.and_eq_true, decide_eq_true_iff, decide_eq_true_iff]
      omega
  · exact Or.inl (isFieldChar_of_isVisible (isVisible_iff_code.mpr (by omega)))

/-- Of the two characters of an escape one is a digit, and the other one may
stand in a field or is a line break. -/
theorem chars_of_escapedByte? {high low : Char} {b : UInt8}
    (hb : escapedByte? high low = some b) :
    high ≠ '"' ∧ low ≠ '"' ∧
      (isFieldChar high = true ∨
        isBreak high = true ∧ (lowerHexValue? low).isSome = true) ∧
      (isFieldChar low = true ∨
        isBreak low = true ∧ (lowerHexValue? high).isSome = true) := by
  unfold escapedByte? at hb
  split at hb
  next h l hhigh hlow =>
    obtain ⟨hvisible, hne⟩ :=
      isVisible_of_lowerHexValue? (Option.isSome_of_eq_some hhigh)
    obtain ⟨hvisible', hne'⟩ :=
      isVisible_of_lowerHexValue? (Option.isSome_of_eq_some hlow)
    exact ⟨hne, hne', Or.inl (isFieldChar_of_isVisible hvisible),
      Or.inl (isFieldChar_of_isVisible hvisible')⟩
  next h hhigh _ =>
    obtain ⟨hvisible, hne⟩ :=
      isVisible_of_lowerHexValue? (Option.isSome_of_eq_some hhigh)
    split at hb
    next hblank =>
      obtain ⟨hclass, hne'⟩ := isFieldChar_or_isBreak_of_isAsciiBlank hblank
      refine ⟨hne, hne', Or.inl (isFieldChar_of_isVisible hvisible), ?_⟩
      exact hclass.imp_right fun h => ⟨h, Option.isSome_of_eq_some hhigh⟩
    next => exact nomatch hb
  next l _ hlow =>
    obtain ⟨hvisible, hne⟩ :=
      isVisible_of_lowerHexValue? (Option.isSome_of_eq_some hlow)
    split at hb
    next hfirst =>
      have hclass : (isFieldChar high = true ∨ isBreak high = true) ∧
          high ≠ '"' := by
        rw [Bool.or_eq_true, Bool.or_eq_true, Bool.and_eq_true, beq_iff_eq,
          beq_iff_eq] at hfirst
        rcases hfirst with (hblank | rfl) | ⟨rfl, -⟩
        · exact isFieldChar_or_isBreak_of_isAsciiBlank hblank
        · exact ⟨Or.inl rfl, by decide⟩
        · exact ⟨Or.inl rfl, by decide⟩
      refine ⟨hclass.2, hne, ?_, Or.inl (isFieldChar_of_isVisible hvisible)⟩
      exact hclass.1.imp_right fun h => ⟨h, Option.isSome_of_eq_some hlow⟩
    next => exact nomatch hb
  next => exact nomatch hb

/-- A display text is sound behind the mark that opens it, whatever part of it
was read before. -/
theorem areSound_of_isEscaped (hrules : rules ≠ .plain) {s rest : List Char}
    {bytes : List UInt8} (hs : IsEscaped s bytes rest) {body : List Char}
    (hbody : '"' ∉ body) :
    ∃ chars, s = chars ++ rest ∧ AreSound rules ('%' :: '"' :: body) chars := by
  induction hs generalizing body with
  | close =>
      exact ⟨['"'], rfl, areSound_of_forall (List.forall_mem_singleton.mpr rfl) _⟩
  | @escaped high low b s rest bytes hb _ ih =>
      obtain ⟨hhigh, hlow, hfirst, hsecond⟩ := chars_of_escapedByte? hb
      have hnext : '"' ∉ body ++ ['%', high, low] := by
        simp [hbody, hhigh.symm, hlow.symm]
      obtain ⟨chars, rfl, hchars⟩ := ih hnext
      refine ⟨'%' :: high :: low :: chars, rfl, ?_⟩
      apply areSound_cons (Or.inl rfl)
      apply areSound_cons
      · refine hfirst.imp_right fun ⟨hbreak, hhex⟩ => ⟨hrules, hbreak, ?_⟩
        exact ⟨[], body, hbody, Or.inl ⟨rfl, low, Option.mem_some_self low, hhex⟩⟩
      · apply areSound_cons
        · refine hsecond.imp_right fun ⟨hbreak, hhex⟩ => ⟨hrules, hbreak, ?_⟩
          exact ⟨[], body, hbody, Or.inr ⟨high, by simp, hhex⟩⟩
        · simpa using hchars
  | @plain c s rest bytes hvisible hpercent hquote _ ih =>
      have hnext : '"' ∉ body ++ [c] := by
        simp [hbody, hquote.symm]
      obtain ⟨chars, rfl, hchars⟩ := ih hnext
      refine ⟨c :: chars, rfl, ?_⟩
      exact areSound_cons (Or.inl (isFieldChar_of_isVisible hvisible)) hchars

/-! ## Values -/

theorem soundUpTo_signChars (negative : Bool) (rest : List Char) :
    SoundUpTo rules (signChars negative ++ rest) rest := by
  cases negative with
  | false => exact SoundUpTo.refl rest
  | true => exact soundUpTo_cons rfl rest

theorem IsDigits.soundUpTo {digits : List Char} (hdigits : IsDigits digits)
    (rest : List Char) : SoundUpTo rules (digits ++ rest) rest :=
  soundUpTo_append (fun c hc => isFieldChar_of_isDigit (hdigits.all c hc)) rest

theorem IsBareItem.soundUpTo {s rest : List Char} {item : BareItem}
    (hs : IsBareItem rules s item rest) : SoundUpTo rules s rest := by
  induction hs with
  | @integer negative digits rest hdigits =>
      exact (soundUpTo_signChars negative _).trans (hdigits.soundUpTo rest)
  | @decimal negative whole fraction rest hwhole _ hfraction =>
      have hpoint : SoundUpTo rules ('.' :: (fraction ++ rest)) rest :=
        (soundUpTo_cons rfl _).trans
          (soundUpTo_append
            (fun c hc => isFieldChar_of_isDigit (hfraction c hc)) rest)
      exact (soundUpTo_signChars negative _).trans
        ((hwhole.soundUpTo _).trans hpoint)
  | @text cs rest hcs =>
      have hchars : ∀ c ∈ cs.flatMap quotedChars, isFieldChar c = true := by
        intro c hc
        obtain ⟨d, hd, hc⟩ := List.mem_flatMap.mp hc
        exact isFieldChar_of_mem_quotedChars (hcs d hd) hc
      exact (soundUpTo_cons rfl _).trans
        ((soundUpTo_append hchars _).trans (soundUpTo_cons rfl rest))
  | @token c cs rest hc hcs =>
      exact (soundUpTo_cons (isFieldChar_of_isTokenStart hc) _).trans
        (soundUpTo_append (fun d hd => isFieldChar_of_isTokenChar (hcs d hd)) rest)
  | @bytes encoded rest bytes hencoded =>
      exact (soundUpTo_cons rfl _).trans
        ((soundUpTo_append
            (fun c hc => isFieldChar_of_isBase64Char (hencoded c hc)) _).trans
          (soundUpTo_cons rfl rest))
  | @boolean value rest =>
      refine (soundUpTo_cons rfl _).trans (soundUpTo_cons ?_ rest)
      cases value with
      | false => rfl
      | true => rfl
  | date _ _ _ _ ih => exact (soundUpTo_cons rfl _).trans ih
  | display hrules hs =>
      obtain ⟨chars, rfl, hchars⟩ :=
        areSound_of_isEscaped hrules hs List.not_mem_nil
      refine ⟨'%' :: '"' :: chars, rfl, ?_⟩
      exact areSound_cons (Or.inl rfl) (areSound_cons (Or.inl rfl) hchars)

/-! ## Dictionaries -/

theorem IsKeyed.soundUpTo {s rest : List Char} {key : String}
    (hs : IsKeyed s key rest) : SoundUpTo rules s rest := by
  cases hs with
  | key hc hcs =>
      have hstart := isFieldChar_of_isKeyChar (isKeyChar_of_isKeyStart hc)
      exact (soundUpTo_cons hstart _).trans
        (soundUpTo_append (fun d hd => isFieldChar_of_isKeyChar (hcs d hd)) rest)

/-- What is written as a key is one. -/
theorem IsKeyed.isKey {s rest : List Char} {key : String}
    (hs : IsKeyed s key rest) : isKey key.toList = true := by
  cases hs with
  | key hc hcs =>
      rw [String.toList_ofList, FeatureGrant.isKey, hc, Bool.true_and]
      exact List.all_eq_true.mpr hcs

theorem AreSpaces.soundUpTo {spaces : List Char} (hspaces : AreSpaces spaces)
    (rest : List Char) : SoundUpTo rules (spaces ++ rest) rest := by
  refine soundUpTo_append (fun c hc => ?_) rest
  rw [hspaces c hc]
  rfl

theorem AreBlanks.soundUpTo {blanks : List Char} (hblanks : AreBlanks blanks)
    (rest : List Char) : SoundUpTo rules (blanks ++ rest) rest := by
  refine soundUpTo_append (fun c hc => ?_) rest
  rcases hblanks c hc with rfl | rfl
  · rfl
  · rfl

theorem AreParameters.soundUpTo {s rest : List Char}
    (hs : AreParameters rules s rest) : SoundUpTo rules s rest := by
  induction hs with
  | none => exact SoundUpTo.refl _
  | flag hspaces hkey _ ih =>
      exact (soundUpTo_cons rfl _).trans
        ((hspaces.soundUpTo _).trans (hkey.soundUpTo.trans ih))
  | @valued spaces s t u rest key item hspaces hkey hitem _ ih =>
      have hvalue : SoundUpTo rules ('=' :: t) rest :=
        (soundUpTo_cons rfl t).trans (hitem.soundUpTo.trans ih)
      exact (soundUpTo_cons rfl _).trans
        ((hspaces.soundUpTo _).trans (hkey.soundUpTo.trans hvalue))

theorem IsItem.soundUpTo {s rest : List Char} {item : BareItem}
    (hs : IsItem rules s item rest) : SoundUpTo rules s rest := by
  obtain ⟨t, hbare, ht⟩ := hs
  exact hbare.soundUpTo.trans ht.soundUpTo

theorem AreItems.soundUpTo {s rest : List Char} {items : List BareItem}
    (hs : AreItems rules s items rest) : SoundUpTo rules s rest := by
  induction hs with
  | close hspaces =>
      exact (hspaces.soundUpTo _).trans (soundUpTo_cons rfl _)
  | item hspaces hitem _ _ ih =>
      exact (hspaces.soundUpTo _).trans (hitem.soundUpTo.trans ih)

theorem IsMember.soundUpTo {s rest : List Char} {member : Member}
    (hs : IsMember rules s member rest) : SoundUpTo rules s rest := by
  cases hs with
  | flag hs => exact hs.soundUpTo
  | item hs => exact (soundUpTo_cons rfl _).trans hs.soundUpTo
  | innerList hs ht =>
      exact (soundUpTo_cons rfl _).trans
        ((soundUpTo_cons rfl _).trans (hs.soundUpTo.trans ht.soundUpTo))

/-- The members of a dictionary are sound to the end of the text, and their
names are keys. -/
theorem AreMembers.soundUpTo {s : List Char} {members : List (String × Member)}
    (hs : AreMembers rules s members) :
    SoundUpTo rules s [] ∧ ∀ entry ∈ members, isKey entry.1.toList = true := by
  induction hs with
  | @last s t blanks key member hkey hmember hblanks =>
      have hend : SoundUpTo rules blanks [] := by
        have h : SoundUpTo rules (blanks ++ []) [] := hblanks.soundUpTo []
        rwa [List.append_nil] at h
      exact ⟨hkey.soundUpTo.trans (hmember.soundUpTo.trans hend),
        List.forall_mem_singleton.mpr hkey.isKey⟩
  | @comma s t u blanks blanks' key member members hkey hmember hblanks hblanks'
      _ ih =>
      have hcomma : SoundUpTo rules (blanks ++ ',' :: (blanks' ++ u)) [] :=
        (hblanks.soundUpTo _).trans ((soundUpTo_cons rfl _).trans
          ((hblanks'.soundUpTo u).trans ih.1))
      exact ⟨hkey.soundUpTo.trans (hmember.soundUpTo.trans hcomma),
        List.forall_mem_cons.mpr ⟨hkey.isKey, ih.2⟩⟩

/-- All characters of a dictionary are sound, and the names of its members are
keys. -/
theorem IsDictionary.areSound {s : List Char} {members : List (String × Member)}
    (hs : IsDictionary rules s members) :
    AreSound rules [] s ∧ ∀ entry ∈ members, isKey entry.1.toList = true := by
  obtain ⟨spaces, t, rfl, hspaces, hmembers⟩ := hs
  obtain ⟨hsound, hkeys⟩ := hmembers.soundUpTo
  obtain ⟨chars, hchars, hall⟩ := (hspaces.soundUpTo t).trans hsound
  rw [List.append_nil] at hchars
  rw [hchars]
  exact ⟨hall, hkeys⟩

/-- Without display texts a dictionary holds tabs and printable ASCII, and nothing
else. -/
theorem IsDictionary.forall_isFieldChar {s : List Char}
    {members : List (String × Member)} (hs : IsDictionary .plain s members) :
    ∀ c ∈ s, isFieldChar c = true := by
  intro c hc
  obtain ⟨before, after, rfl⟩ := List.append_of_mem hc
  refine (hs.areSound.1 before c after rfl).resolve_right ?_
  rintro ⟨hrules, -⟩
  exact hrules rfl

end FeatureGrant.Field
