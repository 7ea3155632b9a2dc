import FeatureGrant.Proofs.Console.Markup

/-!
# What is shown of an escaped text

Whatever is shown of a marked-up text stands in it.  No tag is read in an escaped
text, so that every character of it is shown which a console shows at all.  Only
the number of its backslashes may change.
-/

namespace FeatureGrant.Console

/-! ## Pieces and their characters -/

/-- The characters of a piece as they stand in the text. -/
def Piece.chars : Piece → List Char
  | text chars => chars
  | tag name => bracketTag name

theorem eq_of_guardedTag? {s name behind : List Char} {n : Nat}
    (hguarded : guardedTag? s = some (n, name, behind)) :
    s = slashes n ++ (bracketTag name ++ behind) := by
  obtain ⟨m, t, rfl, ht⟩ := exists_slashes_append s
  rw [guardedTag?_slashes_append ht] at hguarded
  obtain ⟨⟨name', behind'⟩, htag, heq⟩ := Option.map_eq_some_iff.mp hguarded
  obtain ⟨rfl, rfl, rfl⟩ := by simpa using heq
  rw [← eq_bracketTag_append htag]

/-- A tag has the same characters whether it is guarded or not. -/
theorem chars_tag_or_text (guarded : Bool) (name : List Char) :
    (if guarded then Piece.tag name else .text (bracketTag name)).chars =
      bracketTag name := by
  cases guarded with
  | true => rfl
  | false => rfl

/-- The characters of the pieces stand in the text. -/
theorem mem_of_mem_pieces {s : List Char} {p : Piece} (hp : p ∈ pieces s)
    {c : Char} (hc : c ∈ p.chars) : c ∈ s := by
  fun_induction pieces s with
  | case1 s n name behind hguarded ih =>
      rw [eq_of_guardedTag? hguarded, List.mem_append, List.mem_append]
      rcases List.mem_cons.mp hp with rfl | hp
      · obtain ⟨hpos, rfl⟩ := List.mem_replicate.mp hc
        exact Or.inl (List.mem_replicate.mpr ⟨by omega, rfl⟩)
      · rcases List.mem_cons.mp hp with rfl | hp
        · rw [chars_tag_or_text] at hc
          exact Or.inr (Or.inl hc)
        · exact Or.inr (Or.inr (ih hp))
  | case2 => exact nomatch hp
  | case3 d rest hguarded hbracket ih =>
      rw [Bool.and_eq_true, beq_iff_eq, beq_iff_eq] at hbracket
      rcases List.mem_cons.mp hp with rfl | hp
      · obtain rfl := List.mem_singleton.mp hc
        exact List.mem_cons_of_mem d (List.mem_of_mem_head? hbracket.2)
      · exact List.mem_cons_of_mem d (List.mem_of_mem_tail (ih hp))
  | case4 d rest hguarded hplain ih =>
      rcases List.mem_cons.mp hp with rfl | hp
      · obtain rfl := List.mem_singleton.mp hc
        exact List.mem_cons_self
      · exact List.mem_cons_of_mem d (ih hp)

/-- Every character of a text stands in a piece of it, unless it is a
backslash. -/
theorem exists_mem_pieces {s : List Char} {c : Char} (hc : c ∈ s)
    (hslash : c ≠ '\\') : ∃ p ∈ pieces s, c ∈ p.chars := by
  fun_induction pieces s with
  | case1 s n name behind hguarded ih =>
      rw [eq_of_guardedTag? hguarded, List.mem_append, List.mem_append] at hc
      rcases hc with hc | hc | hc
      · exact absurd (List.eq_of_mem_replicate hc) hslash
      · refine ⟨_, List.mem_cons_of_mem _ List.mem_cons_self, ?_⟩
        rw [chars_tag_or_text]
        exact hc
      · obtain ⟨p, hp, hcp⟩ := ih hc
        exact ⟨p, List.mem_cons_of_mem _ (List.mem_cons_of_mem _ hp), hcp⟩
  | case2 => exact nomatch hc
  | case3 d rest hguarded hbracket ih =>
      rw [Bool.and_eq_true, beq_iff_eq, beq_iff_eq] at hbracket
      obtain ⟨behind, rfl⟩ := List.head?_eq_some_iff.mp hbracket.2
      rcases List.mem_cons.mp hc with rfl | hc
      · exact absurd hbracket.1 hslash
      · rcases List.mem_cons.mp hc with rfl | hc
        · exact ⟨_, List.mem_cons_self, List.mem_singleton_self _⟩
        · obtain ⟨p, hp, hcp⟩ := ih hc
          exact ⟨p, List.mem_cons_of_mem _ hp, hcp⟩
  | case4 d rest hguarded hplain ih =>
      rcases List.mem_cons.mp hc with rfl | hc
      · exact ⟨_, List.mem_cons_self, List.mem_singleton_self _⟩
      · obtain ⟨p, hp, hcp⟩ := ih hc
        exact ⟨p, List.mem_cons_of_mem _ hp, hcp⟩

/-! ## Pieces that are shown -/

variable {opened : List (List Char)}

/-- Pieces of text are shown without the characters that a console does not
show. -/
theorem shownPieces?_of_isText {ps : List Piece} (hps : ∀ p ∈ ps, p.IsText) :
    shownPieces? opened ps = some ((ps.flatMap Piece.chars).filter isShown) := by
  induction ps with
  | nil => rfl
  | cons p rest ih =>
      obtain ⟨⟨chars, rfl⟩, hrest⟩ := List.forall_mem_cons.mp hps
      rw [shownPieces?, ih hrest, List.flatMap_cons, List.filter_append]
      rfl

/-! ## Escaped texts -/

/-- No tag is read in an escaped text. -/
theorem isText_of_mem_pieces_escape {text : String} {p : Piece}
    (hp : p ∈ pieces (escape text).toList) : p.IsText := by
  obtain ⟨m, hm⟩ := toList_escape text
  obtain ⟨ps, n, hps, heq⟩ :=
    exists_pieces_escapeTags not_closes_nil (by simp) text.toList m
  rw [hm, ← List.append_nil (slashes m), heq, List.append_nil] at hp
  rcases List.mem_append.mp hp with hp | hp
  · exact hps p hp
  · exact isText_of_mem_pieces_slashes hp

/-- Escaping adds and drops nothing but backslashes. -/
theorem mem_escapeTags_iff {s : List Char} {c : Char} (hc : c ≠ '\\') :
    c ∈ escapeTags s ↔ c ∈ s := by
  have hslashes (n : Nat) : c ∉ slashes n :=
    fun h => hc (List.eq_of_mem_replicate h)
  induction inParts s with
  | slashes n => rw [escapeTags_slashes]
  | tag n htag _ ih =>
      rw [escapeTags_of_tag? htag, eq_bracketTag_append htag]
      simp only [List.mem_append, hslashes, ih]
  | plain n hd hnone _ ih =>
      rw [escapeTags_plain hd hnone]
      simp only [List.mem_append, List.mem_cons, ih]

/-- Of an escaped text all characters are shown which a console shows at all, and
nothing else, apart from backslashes. -/
theorem exists_shown?_escape (text : String) :
    ∃ shown, shown? (escape text) = some shown ∧ ∀ c, c ≠ '\\' →
      (c ∈ shown.toList ↔ c ∈ text.toList ∧ isShown c = true) := by
  have hpieces : ∀ p ∈ pieces (escape text).toList, p.IsText :=
    fun _ => isText_of_mem_pieces_escape
  refine ⟨_, congrArg (Option.map String.ofList) (shownPieces?_of_isText hpieces),
    fun c hc => ?_⟩
  obtain ⟨m, hm⟩ := toList_escape text
  have hescape : c ∈ (escape text).toList ↔ c ∈ text.toList := by
    rw [hm, List.mem_append, mem_escapeTags_iff hc]
    exact or_iff_left fun h => hc (List.eq_of_mem_replicate h)
  rw [String.toList_ofList, List.mem_filter, List.mem_flatMap, ← hescape]
  apply and_congr_left
  rintro -
  constructor
  · rintro ⟨p, hp, hcp⟩
    exact mem_of_mem_pieces hp hcp
  · intro h
    exact exists_mem_pieces h hc

end FeatureGrant.Console
