import Mathlib.Data.List.Chain
import FeatureGrant.Console.Markup

/-!
# Escaped text can be shown

A text cannot be shown if a tag in it closes a style that is not open.  In a text
that is escaped no tag is read, whatever stands in it; nor can the end of it hide
the tag that follows in such a way that the rest could not be shown.  A text in
which no closing tag starts can be shown as it is.
-/

namespace FeatureGrant.Console

/-! ## Reading tags -/

theorem tag?_eq_some_iff {s name behind : List Char} :
    tag? s = some (name, behind) ↔
      ∃ c cs, name = c :: cs ∧ startsTag c = true ∧
        (∀ d ∈ cs, isInsideTag d = true) ∧
        s = '[' :: c :: (cs ++ ']' :: behind) := by
  constructor
  · intro htag
    unfold tag? at htag
    split at htag
    next c rest =>
      split at htag
      next hstart =>
        split at htag
        next behind' hrest =>
          obtain ⟨rfl, rfl⟩ := Prod.mk.inj (Option.some.inj htag)
          refine ⟨c, rest.takeWhile isInsideTag, rfl, hstart,
            fun d hd => List.all_eq_true.mp List.all_takeWhile d hd, ?_⟩
          rw [← hrest, List.takeWhile_append_dropWhile]
        next => exact nomatch htag
      next => exact nomatch htag
    next => exact nomatch htag
  · rintro ⟨c, cs, rfl, hstart, hcs, rfl⟩
    rw [tag?, if_pos hstart, List.dropWhile_append_of_pos hcs,
      List.takeWhile_append_of_pos hcs, List.dropWhile_cons_of_neg (by decide),
      List.takeWhile_cons_of_neg (by decide), List.append_nil]
    rfl

theorem tag?_of_ne {c : Char} (hc : c ≠ '[') (s : List Char) :
    tag? (c :: s) = none := by
  unfold tag?
  split
  next heq => exact absurd (List.cons.inj heq).1 hc
  next => rfl

theorem tag?_bracketTag_append {c : Char} {cs : List Char}
    (hstart : startsTag c = true) (hcs : ∀ d ∈ cs, isInsideTag d = true)
    (s : List Char) : tag? (bracketTag (c :: cs) ++ s) = some (c :: cs, s) :=
  tag?_eq_some_iff.mpr ⟨c, cs, rfl, hstart, hcs, by simp [bracketTag]⟩

/-- So many backslashes. -/
def slashes (n : Nat) : List Char := List.replicate n '\\'

theorem slashes_succ (n : Nat) : slashes (n + 1) = '\\' :: slashes n := rfl

theorem slashes_append_slashes (m n : Nat) (s : List Char) :
    slashes m ++ (slashes n ++ s) = slashes (m + n) ++ s := by
  rw [← List.append_assoc, slashes, slashes, List.replicate_append_replicate]
  rfl

theorem guardedTag?_slashes_append {s : List Char} (hs : s.head? ≠ some '\\')
    (n : Nat) :
    guardedTag? (slashes n ++ s) =
      (tag? s).map fun (name, behind) => (n, name, behind) := by
  have hall : ∀ c ∈ slashes n, (c == '\\') = true := by
    intro c hc
    rw [List.eq_of_mem_replicate hc]
    rfl
  have hstop : s.dropWhile (· == '\\') = s ∧ s.takeWhile (· == '\\') = [] := by
    cases s with
    | nil => exact ⟨rfl, rfl⟩
    | cons c rest =>
        have hc : ¬(c == '\\') = true := by
          intro heq
          rw [beq_iff_eq] at heq
          exact hs (congrArg some heq)
        exact ⟨List.dropWhile_cons_of_neg hc, List.takeWhile_cons_of_neg hc⟩
  rw [guardedTag?, List.dropWhile_append_of_pos hall,
    List.takeWhile_append_of_pos hall, hstop.1, hstop.2, List.append_nil, slashes,
    List.length_replicate]

/-! ## Texts part by part -/

/-- The parts in which a text is read from its start: nothing but backslashes, or
backslashes before a tag or before some other character. -/
inductive InParts : List Char → Prop
  | slashes (n : Nat) : InParts (slashes n)
  | tag (n : Nat) {s name behind : List Char} (htag : tag? s = some (name, behind))
      (hbehind : InParts behind) : InParts (Console.slashes n ++ s)
  | plain (n : Nat) {c : Char} {s : List Char} (hc : c ≠ '\\')
      (hnone : tag? (c :: s) = none) (hs : InParts s) :
      InParts (Console.slashes n ++ c :: s)

theorem exists_slashes_append (s : List Char) :
    ∃ n t, s = slashes n ++ t ∧ t.head? ≠ some '\\' := by
  induction s with
  | nil => exact ⟨0, [], rfl, nofun⟩
  | cons c rest ih =>
      by_cases hc : c = '\\'
      · obtain ⟨n, t, rfl, ht⟩ := ih
        exact ⟨n + 1, t, by rw [hc, slashes_succ, List.cons_append], ht⟩
      · exact ⟨0, c :: rest, rfl, fun h => hc (Option.some.inj h)⟩

theorem inParts (s : List Char) : InParts s := by
  obtain ⟨n, t, rfl, ht⟩ := exists_slashes_append s
  cases hnone : tag? t with
  | some found =>
      have : found.2.length < (slashes n ++ t).length := by
        have hlt := tag?_length hnone
        rw [List.length_append]
        omega
      exact .tag n hnone (inParts found.2)
  | none =>
      cases t with
      | nil =>
          rw [List.append_nil]
          exact .slashes n
      | cons c rest =>
          have : rest.length < (slashes n ++ c :: rest).length := by
            rw [List.length_append, List.length_cons]
            omega
          exact .plain n (fun hc => ht (congrArg some hc)) hnone (inParts rest)
termination_by s.length

theorem head?_ne_slash_of_tag? {s name behind : List Char}
    (htag : tag? s = some (name, behind)) : s.head? ≠ some '\\' := by
  obtain ⟨c, cs, -, -, -, rfl⟩ := tag?_eq_some_iff.mp htag
  exact fun h => absurd (Option.some.inj h) (by decide)

theorem head?_ne_slash_of_ne {c : Char} (hc : c ≠ '\\') (s : List Char) :
    (c :: s).head? ≠ some '\\' :=
  fun h => hc (Option.some.inj h)

/-! ## Showing a text part by part -/

/-- Whether a text can be shown while some styles are open. -/
def CanShow (opened : List (List Char)) (s : List Char) : Prop :=
  (shownPieces? opened (pieces s)).isSome = true

variable {opened : List (List Char)}

/-- A piece that is shown as it is. -/
def Piece.IsText (p : Piece) : Prop := ∃ chars, p = .text chars

/-- Pieces of text do not change whether what is behind them can be shown. -/
theorem isSome_shownPieces?_append {ps : List Piece} (hps : ∀ p ∈ ps, p.IsText)
    (rest : List Piece) :
    (shownPieces? opened (ps ++ rest)).isSome =
      (shownPieces? opened rest).isSome := by
  induction ps with
  | nil => rfl
  | cons p others ih =>
      obtain ⟨⟨chars, rfl⟩, hothers⟩ := List.forall_mem_cons.mp hps
      rw [List.cons_append, shownPieces?, Option.isSome_map, ih hothers]

theorem isSome_shownPieces?_text (chars : List Char) (rest : List Piece) :
    (shownPieces? opened (.text chars :: rest)).isSome =
      (shownPieces? opened rest).isSome := by
  rw [shownPieces?, Option.isSome_map]

theorem shownPieces?_close {name : List Char}
    (hne : (styleOf name).isEmpty = false)
    (hopened : opened.contains (styleOf name) = true) (rest : List Piece) :
    shownPieces? opened (.tag ('/' :: name) :: rest) =
      shownPieces? (opened.erase (styleOf name)) rest := by
  rw [shownPieces?.eq_def]
  simp only [hne, hopened, Bool.false_eq_true, if_false, if_true]

theorem shownPieces?_open {c : Char} (hc : c ≠ '/') (name : List Char)
    (rest : List Piece) :
    shownPieces? opened (.tag (c :: name) :: rest) =
      shownPieces? (styleOf (c :: name) :: opened) rest := by
  rw [shownPieces?]
  rintro name' heq
  exact hc (List.cons.inj heq).1

theorem pieces_of_tag? {s name behind : List Char}
    (htag : tag? s = some (name, behind)) (n : Nat) :
    pieces (slashes n ++ s) =
      .text (slashes (n / 2))
        :: (if n % 2 == 0 then .tag name else .text (bracketTag name))
        :: pieces behind := by
  have hguarded : guardedTag? (slashes n ++ s) = some (n, name, behind) := by
    rw [guardedTag?_slashes_append (head?_ne_slash_of_tag? htag), htag]
    rfl
  rw [pieces]
  split
  next heq =>
    obtain ⟨rfl, rfl, rfl⟩ := by simpa using hguarded.symm.trans heq
    rfl
  next heq => cases hguarded.symm.trans heq

theorem pieces_cons {c : Char} {s : List Char}
    (hnone : guardedTag? (c :: s) = none) :
    pieces (c :: s) =
      if c == '\\' && s.head? == some '[' then .text ['['] :: pieces s.tail
      else .text [c] :: pieces s := by
  rw [pieces]
  split
  next heq => cases hnone.symm.trans heq
  next => rfl

/-- Backslashes and one further character in front of a text are read as text, if
no tag starts there. -/
theorem exists_pieces_plain {c : Char} {s : List Char} (hc : c ≠ '\\')
    (hnone : tag? (c :: s) = none) (n : Nat) :
    ∃ ps, (∀ p ∈ ps, p.IsText) ∧ pieces (slashes n ++ c :: s) = ps ++ pieces s := by
  have hguarded (m : Nat) : guardedTag? (slashes m ++ c :: s) = none := by
    rw [guardedTag?_slashes_append (head?_ne_slash_of_ne hc s), hnone]
    rfl
  induction n with
  | zero =>
      have hplain : ¬(c == '\\' && s.head? == some '[') = true := by
        rw [beq_false_of_ne hc]
        exact nofun
      refine ⟨[.text [c]], List.forall_mem_singleton.mpr ⟨_, rfl⟩, ?_⟩
      rw [slashes, List.replicate_zero, List.nil_append,
        pieces_cons (hguarded 0), if_neg hplain, List.singleton_append]
  | succ n ih =>
      have hnext := hguarded (n + 1)
      rw [slashes_succ, List.cons_append] at hnext
      rw [slashes_succ, List.cons_append, pieces_cons hnext]
      split
      next hbracket =>
        cases n with
        | zero => exact ⟨[.text ['[']], List.forall_mem_singleton.mpr ⟨_, rfl⟩, rfl⟩
        | succ n => exact absurd hbracket Bool.false_ne_true
      next =>
        obtain ⟨ps, hps, heq⟩ := ih
        exact ⟨.text ['\\'] :: ps, List.forall_mem_cons.mpr ⟨⟨_, rfl⟩, hps⟩,
          congrArg (.text ['\\'] :: ·) heq⟩

theorem isText_of_mem_pieces_slashes {n : Nat} {p : Piece}
    (hp : p ∈ pieces (slashes n)) : p.IsText := by
  have hnone (m : Nat) : guardedTag? (slashes m) = none := by
    rw [← List.append_nil (slashes m), guardedTag?_slashes_append (by simp)]
    rfl
  induction n with
  | zero =>
      rw [slashes, List.replicate_zero, pieces] at hp
      exact nomatch hp
  | succ n ih =>
      have hplain : ¬('\\' == '\\' && (slashes n).head? == some '[') = true := by
        cases n with
        | zero => decide
        | succ n => exact Bool.false_ne_true
      have hnext := hnone (n + 1)
      rw [slashes_succ] at hnext
      rw [slashes_succ, pieces_cons hnext, if_neg hplain] at hp
      rcases List.mem_cons.mp hp with h | hp
      · exact ⟨_, h⟩
      · exact ih hp

theorem canShow_plain_iff {c : Char} {s : List Char} (hc : c ≠ '\\')
    (hnone : tag? (c :: s) = none) (n : Nat) :
    CanShow opened (slashes n ++ c :: s) ↔ CanShow opened s := by
  obtain ⟨ps, hps, heq⟩ := exists_pieces_plain hc hnone n
  rw [CanShow, heq, isSome_shownPieces?_append hps, CanShow]

theorem canShow_slashes (n : Nat) : CanShow opened (slashes n) := by
  have hps : ∀ p ∈ pieces (slashes n), p.IsText :=
    fun _ => isText_of_mem_pieces_slashes
  rw [CanShow, ← List.append_nil (pieces _), isSome_shownPieces?_append hps]
  rfl

/-- Characters that start no tag may stand in front of a text. -/
theorem canShow_append_iff {cs : List Char}
    (hcs : ∀ c ∈ cs, c ≠ '[' ∧ c ≠ '\\') (s : List Char) :
    CanShow opened (cs ++ s) ↔ CanShow opened s := by
  induction cs with
  | nil => rfl
  | cons c rest ih =>
      obtain ⟨⟨hbracket, hslash⟩, hrest⟩ := List.forall_mem_cons.mp hcs
      rw [List.cons_append, ← ih hrest]
      exact canShow_plain_iff hslash (tag?_of_ne hbracket _) 0

/-! ## Escaping part by part -/

theorem escapeTags_cons {c : Char} {s : List Char}
    (hnone : guardedTag? (c :: s) = none) :
    escapeTags (c :: s) = c :: escapeTags s := by
  rw [escapeTags]
  split
  next heq => cases hnone.symm.trans heq
  next => rfl

theorem escapeTags_slashes_append {s : List Char} (hs : s.head? ≠ some '\\')
    (hnone : tag? s = none) (n : Nat) :
    escapeTags (slashes n ++ s) = slashes n ++ escapeTags s := by
  have hguarded (m : Nat) : guardedTag? (slashes m ++ s) = none := by
    rw [guardedTag?_slashes_append hs, hnone]
    rfl
  induction n with
  | zero => rfl
  | succ n ih =>
      have hnext := hguarded (n + 1)
      rw [slashes_succ, List.cons_append] at hnext ⊢
      rw [escapeTags_cons hnext, ih, List.cons_append]

theorem escapeTags_nil : escapeTags [] = [] := by
  rw [escapeTags]
  rfl

theorem escapeTags_slashes (n : Nat) : escapeTags (slashes n) = slashes n := by
  have h := escapeTags_slashes_append (s := []) (by simp) rfl n
  rwa [escapeTags_nil, List.append_nil] at h

theorem escapeTags_of_tag? {s name behind : List Char}
    (htag : tag? s = some (name, behind)) (n : Nat) :
    escapeTags (slashes n ++ s) =
      slashes (2 * n + 1) ++ (bracketTag name ++ escapeTags behind) := by
  have hguarded : guardedTag? (slashes n ++ s) = some (n, name, behind) := by
    rw [guardedTag?_slashes_append (head?_ne_slash_of_tag? htag), htag]
    rfl
  rw [escapeTags]
  split
  next heq =>
    obtain ⟨rfl, rfl, rfl⟩ := by simpa using hguarded.symm.trans heq
    rw [List.append_assoc]
    rfl
  next heq => cases hguarded.symm.trans heq

theorem escapeTags_plain {c : Char} {s : List Char} (hc : c ≠ '\\')
    (hnone : tag? (c :: s) = none) (n : Nat) :
    escapeTags (slashes n ++ c :: s) = slashes n ++ c :: escapeTags s := by
  have hguarded : guardedTag? (slashes 0 ++ c :: s) = none := by
    rw [guardedTag?_slashes_append (head?_ne_slash_of_ne hc s), hnone]
    rfl
  rw [escapeTags_slashes_append (head?_ne_slash_of_ne hc s) hnone,
    escapeTags_cons hguarded]

/-! ## No tag comes from escaping -/

/-- Whether a bracket closes in a text before one opens. -/
def Closes (s : List Char) : Prop := (s.dropWhile isInsideTag).head? = some ']'

theorem closes_append_iff {cs : List Char} (hcs : ∀ c ∈ cs, isInsideTag c = true)
    (s : List Char) : Closes (cs ++ s) ↔ Closes s := by
  rw [Closes, List.dropWhile_append_of_pos hcs, Closes]

theorem isInsideTag_of_mem_slashes {n : Nat} {c : Char} (hc : c ∈ slashes n) :
    isInsideTag c = true := by
  rw [List.eq_of_mem_replicate hc]
  rfl

theorem closes_slashes_append_iff (n : Nat) (s : List Char) :
    Closes (slashes n ++ s) ↔ Closes s :=
  closes_append_iff (fun _ => isInsideTag_of_mem_slashes) s

theorem not_closes_of_head? {s : List Char} (hs : ∀ c ∈ s.head?, c = '[') :
    ¬Closes s := by
  cases s with
  | nil => exact nofun
  | cons c rest =>
      obtain rfl := hs c rfl
      exact fun h => absurd (Option.some.inj h) (by decide)

theorem not_closes_nil : ¬Closes [] := not_closes_of_head? (by simp)

theorem isInsideTag_of_startsTag {c : Char} (hc : startsTag c = true) :
    isInsideTag c = true := by
  rw [isInsideTag, Bool.and_eq_true, bne_iff_ne, bne_iff_ne]
  constructor
  · rintro rfl
    exact absurd hc (by decide)
  · rintro rfl
    exact absurd hc (by decide)

/-- A tag starts at a bracket if its first character is right and the bracket is
closed. -/
theorem isSome_tag?_iff {s : List Char} :
    (tag? ('[' :: s)).isSome = true ↔
      (∃ c ∈ s.head?, startsTag c = true) ∧ Closes s := by
  constructor
  · intro h
    obtain ⟨⟨name, behind⟩, htag⟩ := Option.isSome_iff_exists.mp h
    obtain ⟨c, cs, -, hstart, hcs, heq⟩ := tag?_eq_some_iff.mp htag
    obtain rfl := (List.cons.inj heq).2
    refine ⟨⟨c, rfl, hstart⟩, ?_⟩
    have hinside : ∀ d ∈ c :: cs, isInsideTag d = true :=
      List.forall_mem_cons.mpr ⟨isInsideTag_of_startsTag hstart, hcs⟩
    rw [← List.cons_append, closes_append_iff hinside]
    rfl
  · rintro ⟨⟨c, hc, hstart⟩, hcloses⟩
    obtain ⟨rest, rfl⟩ := List.head?_eq_some_iff.mp hc
    rw [Closes, List.dropWhile_cons_of_pos (isInsideTag_of_startsTag hstart)]
      at hcloses
    obtain ⟨behind, hbehind⟩ := List.head?_eq_some_iff.mp hcloses
    rw [tag?, if_pos hstart, hbehind]
    rfl

/-- A bracket that closes behind an escaped text closes behind the text. -/
theorem closes_of_closes_escapeTags {s rest : List Char} (hrest : ¬Closes rest)
    (hcloses : Closes (escapeTags s ++ rest)) : Closes s := by
  induction inParts s with
  | slashes n =>
      rw [escapeTags_slashes, closes_slashes_append_iff] at hcloses
      exact absurd hcloses hrest
  | tag n htag _ _ =>
      rw [escapeTags_of_tag? htag, List.append_assoc, List.append_assoc,
        closes_slashes_append_iff] at hcloses
      exact absurd (Option.some.inj hcloses) (by decide)
  | @plain n c s hc hnone _ ih =>
      rw [escapeTags_plain hc hnone, List.append_assoc, List.cons_append,
        closes_slashes_append_iff] at hcloses
      rw [closes_slashes_append_iff]
      by_cases hinside : isInsideTag c = true
      · rw [Closes, List.dropWhile_cons_of_pos hinside] at hcloses ⊢
        exact ih hcloses
      · rw [Closes, List.dropWhile_cons_of_neg hinside] at hcloses ⊢
        exact hcloses

theorem mem_head?_of_escapeTags {s rest : List Char}
    (hrest : ∀ c ∈ rest.head?, startsTag c = false) {c : Char}
    (hc : c ∈ (escapeTags s ++ rest).head?) (hstart : startsTag c = true) :
    c ∈ s.head? := by
  have hslash (t : List Char) (n : Nat) (h : c ∈ (slashes (n + 1) ++ t).head?) :
      False := by
    obtain rfl : '\\' = c := Option.some.inj h
    exact absurd hstart (by decide)
  cases inParts s with
  | slashes n =>
      rw [escapeTags_slashes] at hc
      cases n with
      | zero =>
          rw [hrest c hc] at hstart
          exact nomatch hstart
      | succ n => exact (hslash _ n hc).elim
  | tag n htag =>
      rw [escapeTags_of_tag? htag, List.append_assoc] at hc
      exact (hslash _ (2 * n) hc).elim
  | plain n hd hnone =>
      rw [escapeTags_plain hd hnone, List.append_assoc] at hc
      cases n with
      | zero => exact hc
      | succ n => exact (hslash _ n hc).elim

/-- Where no tag starts in a text, none starts in the escaped one. -/
theorem tag?_escapeTags {c : Char} {s rest : List Char}
    (hclosed : ¬Closes rest) (hhead : ∀ c ∈ rest.head?, startsTag c = false)
    (hnone : tag? (c :: s) = none) :
    tag? (c :: (escapeTags s ++ rest)) = none := by
  by_cases hc : c = '['
  · rw [hc] at hnone ⊢
    rw [← Option.not_isSome_iff_eq_none, isSome_tag?_iff] at hnone ⊢
    rintro ⟨⟨d, hd, hstart⟩, hcloses⟩
    exact hnone ⟨⟨d, mem_head?_of_escapeTags hhead hd hstart, hstart⟩,
      closes_of_closes_escapeTags hclosed hcloses⟩
  · exact tag?_of_ne hc _

/-! ## Escaped texts -/

/-- No tag is read in an escaped text, whatever number of backslashes and whatever
text is behind it that does not complete a tag. -/
theorem exists_pieces_escapeTags {back : List Char} (hback : ¬Closes back)
    (hhead : ∀ c ∈ back.head?, startsTag c = false) (s : List Char) (m : Nat) :
    ∃ ps n, (∀ p ∈ ps, p.IsText) ∧
      pieces (escapeTags s ++ (slashes m ++ back)) =
        ps ++ pieces (slashes n ++ back) := by
  have hclosed : ¬Closes (slashes m ++ back) := by
    rwa [closes_slashes_append_iff]
  have hstart : ∀ c ∈ (slashes m ++ back).head?, startsTag c = false := by
    intro c hc
    cases m with
    | zero => exact hhead c hc
    | succ m =>
        obtain rfl : '\\' = c := Option.some.inj hc
        decide
  induction inParts s with
  | slashes n =>
      rw [escapeTags_slashes, slashes_append_slashes]
      exact ⟨[], n + m, List.forall_mem_nil _, rfl⟩
  | @tag n s name behind htag _ ih =>
      obtain ⟨c, cs, rfl, hfirst, hcs, -⟩ := tag?_eq_some_iff.mp htag
      have hguarded := tag?_bracketTag_append hfirst hcs
        (escapeTags behind ++ (slashes m ++ back))
      have hodd : ¬((2 * n + 1) % 2 == 0) = true := by
        rw [beq_iff_eq]
        omega
      obtain ⟨ps, k, hps, heq⟩ := ih
      rw [escapeTags_of_tag? htag, List.append_assoc, List.append_assoc,
        pieces_of_tag? hguarded, if_neg hodd, heq]
      exact ⟨_ :: _ :: ps, k, List.forall_mem_cons.mpr
        ⟨⟨_, rfl⟩, List.forall_mem_cons.mpr ⟨⟨_, rfl⟩, hps⟩⟩, rfl⟩
  | plain n hc hnone _ ih =>
      obtain ⟨front, hfront, hplain⟩ :=
        exists_pieces_plain hc (tag?_escapeTags hclosed hstart hnone) n
      obtain ⟨ps, k, hps, heq⟩ := ih
      rw [escapeTags_plain hc hnone, List.append_assoc, List.cons_append, hplain,
        heq, ← List.append_assoc]
      exact ⟨front ++ ps, k, List.forall_mem_append.mpr ⟨hfront, hps⟩, rfl⟩

/-- An escaped text can be shown in front of what can be shown behind any number
of backslashes. -/
theorem canShow_escapeTags {back : List Char} (hback : ¬Closes back)
    (hhead : ∀ c ∈ back.head?, startsTag c = false)
    (hshow : ∀ n, CanShow opened (slashes n ++ back)) (s : List Char) (m : Nat) :
    CanShow opened (escapeTags s ++ (slashes m ++ back)) := by
  obtain ⟨ps, n, hps, heq⟩ := exists_pieces_escapeTags hback hhead s m
  rw [CanShow, heq, isSome_shownPieces?_append hps]
  exact hshow n

theorem toList_escape (text : String) :
    ∃ m, (escape text).toList = escapeTags text.toList ++ slashes m := by
  rw [escape, String.toList_ofList]
  split
  next => exact ⟨1, rfl⟩
  next => exact ⟨0, (List.append_nil _).symm⟩

/-- An escaped text can be shown. -/
theorem canShow_escape (text : String) : CanShow opened (escape text).toList := by
  obtain ⟨m, hm⟩ := toList_escape text
  rw [hm, ← List.append_nil (slashes m)]
  refine canShow_escapeTags not_closes_nil (by simp) (fun n => ?_) text.toList m
  rw [List.append_nil]
  exact canShow_slashes n

/-- A tag that closes an open style can be shown behind any number of
backslashes, whether they guard it or not. -/
theorem canShow_slashes_close {name : List Char}
    (htag : tag? (bracketTag ('/' :: name)) = some ('/' :: name, []))
    (hne : (styleOf name).isEmpty = false)
    (hopened : opened.contains (styleOf name) = true) (n : Nat) :
    CanShow opened (slashes n ++ bracketTag ('/' :: name)) := by
  have hnil (styles : List (List Char)) : (shownPieces? styles (pieces [])).isSome :=
    canShow_slashes 0
  rw [CanShow, pieces_of_tag? htag, isSome_shownPieces?_text]
  split
  next =>
    rw [shownPieces?_close hne hopened]
    exact hnil _
  next =>
    rw [isSome_shownPieces?_text]
    exact hnil _

/-- An escaped text can be shown in an open style that is closed behind it, also
behind further characters that belong to no tag. -/
theorem canShow_escape_close {name : List Char}
    (htag : tag? (bracketTag ('/' :: name)) = some ('/' :: name, []))
    (hne : (styleOf name).isEmpty = false)
    (hopened : opened.contains (styleOf name) = true) (text : String)
    {plain : List Char} (hplain : ∀ c ∈ plain, isInsideTag c = true ∧ c ≠ '\\')
    (hhead : ∀ c ∈ plain.head?, startsTag c = false) :
    CanShow opened
      ((escape text).toList ++ (plain ++ bracketTag ('/' :: name))) := by
  have hfree : ∀ c ∈ plain, c ≠ '[' ∧ c ≠ '\\' := by
    rintro c hc
    refine ⟨?_, (hplain c hc).2⟩
    rintro rfl
    exact nomatch (hplain '[' hc).1
  have hclosed : ¬Closes (plain ++ bracketTag ('/' :: name)) := by
    rw [closes_append_iff fun c hc => (hplain c hc).1]
    exact not_closes_of_head? fun c hc => (Option.some.inj hc).symm
  have hstart : ∀ c ∈ (plain ++ bracketTag ('/' :: name)).head?,
      startsTag c = false := by
    intro c hc
    cases plain with
    | nil =>
        obtain rfl : '[' = c := Option.some.inj hc
        decide
    | cons d rest => exact hhead c hc
  obtain ⟨m, hm⟩ := toList_escape text
  rw [hm, List.append_assoc]
  refine canShow_escapeTags hclosed hstart (fun n => ?_) text.toList m
  cases plain with
  | nil => exact canShow_slashes_close htag hne hopened n
  | cons d rest =>
      obtain ⟨⟨hbracket, hslash⟩, hrest⟩ := List.forall_mem_cons.mp hfree
      rw [List.cons_append, canShow_plain_iff hslash (tag?_of_ne hbracket _),
        canShow_append_iff hrest]
      exact canShow_slashes_close htag hne hopened 0

/-! ## Texts without closing tags -/

/-- Whether no closing tag starts in a text. -/
def OpensOnly (s : List Char) : Prop := s.IsChain fun c d => c = '[' → d ≠ '/'

theorem OpensOnly.append {s t : List Char} (hs : OpensOnly s) (ht : OpensOnly t)
    (hmeet : ∀ c ∈ s.getLast?, ∀ d ∈ t.head?, c = '[' → d ≠ '/') :
    OpensOnly (s ++ t) :=
  List.isChain_append.mpr ⟨hs, ht, hmeet⟩

theorem opensOnly_of_not_mem {s : List Char} (hs : '/' ∉ s) : OpensOnly s := by
  induction s with
  | nil => exact .nil
  | cons c rest ih =>
      rw [List.mem_cons, not_or] at hs
      refine List.isChain_cons.mpr ⟨fun d hd _ hslash => ?_, ih hs.2⟩
      exact hs.2 (hslash ▸ List.mem_of_mem_head? hd)

theorem opensOnly_slashes (n : Nat) : OpensOnly (slashes n) := by
  apply opensOnly_of_not_mem
  intro hmem
  exact absurd (List.eq_of_mem_replicate hmem) (by decide)

theorem opensOnly_slashes_append_iff (n : Nat) {s : List Char} :
    OpensOnly (slashes n ++ s) ↔ OpensOnly s := by
  constructor
  · exact fun h => (List.isChain_append.mp h).2.1
  · intro hs
    refine (opensOnly_slashes n).append hs fun c hc d _ hbracket => ?_
    obtain rfl := List.eq_of_mem_replicate (List.mem_of_getLast? hc)
    exact absurd hbracket (by decide)

theorem eq_bracketTag_append {s name behind : List Char}
    (htag : tag? s = some (name, behind)) : s = bracketTag name ++ behind := by
  obtain ⟨c, cs, rfl, -, -, rfl⟩ := tag?_eq_some_iff.mp htag
  simp [bracketTag]

/-- A text can be shown if no closing tag starts in it, whatever tags are
opened. -/
theorem OpensOnly.canShow {s : List Char} (hs : OpensOnly s) :
    CanShow opened s := by
  induction inParts s generalizing opened with
  | slashes n => exact canShow_slashes n
  | tag n htag _ ih =>
      rw [opensOnly_slashes_append_iff, eq_bracketTag_append htag] at hs
      obtain ⟨hname, hbehind, -⟩ := List.isChain_append.mp hs
      obtain ⟨c, cs, rfl, -⟩ := tag?_eq_some_iff.mp htag
      have hc : c ≠ '/' := (List.isChain_cons.mp hname).1 c rfl rfl
      rw [CanShow, pieces_of_tag? htag, isSome_shownPieces?_text]
      split
      next =>
        rw [shownPieces?_open hc]
        exact ih hbehind
      next =>
        rw [isSome_shownPieces?_text]
        exact ih hbehind
  | plain n hc hnone _ ih =>
      rw [opensOnly_slashes_append_iff] at hs
      rw [canShow_plain_iff hc hnone]
      exact ih (List.isChain_cons.mp hs).2

theorem OpensOnly.escapeTags {s : List Char} (hs : OpensOnly s) :
    OpensOnly (escapeTags s) := by
  induction inParts s with
  | slashes n =>
      rw [escapeTags_slashes]
      exact hs
  | @tag n s name behind htag _ ih =>
      rw [opensOnly_slashes_append_iff, eq_bracketTag_append htag] at hs
      obtain ⟨hname, hbehind, -⟩ := List.isChain_append.mp hs
      rw [escapeTags_of_tag? htag, opensOnly_slashes_append_iff]
      refine OpensOnly.append hname (ih hbehind) fun c hc d _ hbracket => ?_
      have hlast : (bracketTag name).getLast? = some ']' :=
        List.getLast?_concat
      obtain rfl := Option.some.inj (hlast.symm.trans hc)
      exact absurd hbracket (by decide)
  | plain n hc hnone _ ih =>
      rw [opensOnly_slashes_append_iff] at hs
      obtain ⟨hmeet, hrest⟩ := List.isChain_cons.mp hs
      rw [escapeTags_plain hc hnone, opensOnly_slashes_append_iff]
      refine List.isChain_cons.mpr ⟨fun d hd hbracket hslash => ?_, ih hrest⟩
      have hstart : startsTag d = true := by
        rw [hslash]
        decide
      rw [← List.append_nil (Console.escapeTags _)] at hd
      exact hmeet d (mem_head?_of_escapeTags (by simp) hd hstart) hbracket hslash

theorem OpensOnly.escape {text : String} (htext : OpensOnly text.toList) :
    OpensOnly (escape text).toList := by
  obtain ⟨m, hm⟩ := toList_escape text
  rw [hm]
  refine htext.escapeTags.append (opensOnly_slashes m) fun c _ d hd _ => ?_
  rw [List.eq_of_mem_replicate (List.mem_of_mem_head? hd)]
  decide

end FeatureGrant.Console
