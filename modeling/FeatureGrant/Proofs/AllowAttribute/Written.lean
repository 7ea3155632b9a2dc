import FeatureGrant.AllowAttribute
import FeatureGrant.Proofs.Listing
import FeatureGrant.Proofs.OrderedMap
import FeatureGrant.Proofs.Origin.Text
import FeatureGrant.Proofs.Text.Pieces

/-!
# Allow attributes that are written

A map that can be written as an allow attribute is read back from it as it was:
a semicolon separates the directives before it from those behind it, and the
words of a written directive are the feature and its targets.
-/

namespace FeatureGrant.AllowAttribute

open FeatureGrant.Text

/-! ## Directives -/

/-- A semicolon separates the directives before it from those behind it. -/
theorem directives_append (a b : List Char) :
    directives (a ++ ';' :: b) = directives a ++ directives b := by
  have hsplit : (a ++ ';' :: b).splitOn ';' = a.splitOn ';' ++ b.splitOn ';' :=
    List.splitOnP_append_cons a b (beq_self_eq_true ';')
  rw [directives, hsplit, List.filterMap_append]
  rfl

theorem words_cons_blank {c : Char} (hc : isBlank c = true) (s : List Char) :
    words (c :: s) = words s :=
  words_append_cons hc [] s

/-- Blanks before a directive do not matter. -/
theorem directives_cons_blank {c : Char} (hc : isBlank c = true)
    (s : List Char) : directives (c :: s) = directives s := by
  have hne : (c == ';') = false := by
    rw [beq_eq_false_iff_ne]
    rintro rfl
    exact absurd hc (by decide)
  have hdirective (piece : List Char) :
      directive? (c :: piece) = directive? piece := by
    rw [directive?, directive?, words_cons_blank hc]
  rw [directives, directives, List.splitOn_cons_eq_if_modifyHead, hne]
  cases s.splitOn ';' with
  | nil => rfl
  | cons first rest =>
      change (List.filterMap directive? ((c :: first) :: rest)) = _
      rw [List.filterMap_cons, List.filterMap_cons, hdirective]

/-- A text without a semicolon is one directive. -/
theorem directives_of_not_mem {s : List Char} (hs : ';' ∉ s) :
    directives s = (directive? s).toList := by
  rw [directives, List.splitOn_eq_singleton hs]
  cases hdirective : directive? s with
  | none => rw [List.filterMap_cons_none hdirective]; rfl
  | some entry => rw [List.filterMap_cons_some hdirective]; rfl

/-! ## Words -/

theorem isDirectiveWord_iff {s : List Char} :
    isDirectiveWord s = true ↔
      s ≠ [] ∧ (∀ c ∈ s, isBlank c = false) ∧ ';' ∉ s := by
  simp only [isDirectiveWord, Bool.and_eq_true, Bool.not_eq_true',
    List.isEmpty_eq_false_iff, List.all_eq_true, bne_iff_ne]
  constructor
  · rintro ⟨hne, hs⟩
    exact ⟨hne, fun c hc => (hs c hc).1, fun hmem => (hs ';' hmem).2 rfl⟩
  · rintro ⟨hne, hblank, hmem⟩
    exact ⟨hne, fun c hc => ⟨hblank c hc, fun heq => hmem (heq ▸ hc)⟩⟩

theorem words_of_forall_not_blank {s : List Char} (hne : s ≠ [])
    (hs : ∀ c ∈ s, isBlank c = false) : words s = [s] := by
  rw [words, List.splitOnP_eq_singleton hs]
  simp [hne]

/-- Words with a space between them are these words. -/
theorem words_intercalate {texts : List String}
    (htexts : ∀ text ∈ texts, isDirectiveWord text.toList = true) :
    words ([' '].intercalate (texts.map String.toList)) =
      texts.map String.toList := by
  induction texts with
  | nil => rfl
  | cons text rest ih =>
      rw [List.forall_mem_cons] at htexts
      obtain ⟨hne, hblank, -⟩ := isDirectiveWord_iff.mp htexts.1
      have hword := words_of_forall_not_blank hne hblank
      cases rest with
      | nil =>
          rw [List.map_singleton, List.intercalate_singleton]
          exact hword
      | cons next others =>
          have hrest := ih htexts.2
          rw [List.map_cons] at hrest ⊢
          rw [List.map_cons, List.intercalate_cons_cons, List.append_assoc,
            List.singleton_append, words_append_cons (by decide), hword, hrest]
          rfl

/-! ## Written directives -/

theorem isDirectiveWord_of_canList {text : String} (htext : CanList text) :
    isDirectiveWord text.toList = true := by
  rcases htext with rfl | rfl | ⟨-, hword⟩
  · decide
  · decide
  · exact hword

theorem isDirectiveWord_of_mem_targets {listing : Listing}
    (hlisting : CanWrite listing) {text : String}
    (htext : text ∈ targets listing) : isDirectiveWord text.toList = true := by
  cases listing with
  | wildcard =>
      rw [List.mem_singleton.mp htext]
      decide
  | deny =>
      rw [List.mem_singleton.mp htext]
      decide
  | members texts => exact isDirectiveWord_of_canList (hlisting text htext)

theorem target?_of_canList {text : String} (htext : CanList text) :
    target? text = some text := by
  unfold target?
  by_cases hkeyword : text = Keyword.self.text ∨ text = Keyword.src.text
  · rw [if_pos hkeyword]
  · rw [if_neg hkeyword]
    rw [not_or] at hkeyword
    exact ((htext.resolve_left hkeyword.1).resolve_left hkeyword.2).1

theorem ne_star_of_canList {text : String} (htext : CanList text) :
    text ≠ "*" := by
  rcases htext with rfl | rfl | ⟨horigin, -⟩
  · decide
  · decide
  · rintro rfl
    exact absurd (colon_mem_of_canonical? horigin) (by decide)

theorem ne_none_of_canList {text : String} (htext : CanList text) :
    text ≠ Keyword.none.text := by
  rcases htext with rfl | rfl | ⟨horigin, -⟩
  · decide
  · decide
  · exact ne_keyword_of_canonical? horigin .none

/-- The written targets have the allowlist that they were written for. -/
theorem allowlist_targets {listing : Listing} (hlisting : CanWrite listing) :
    allowlist (targets listing) = listing.allowlist := by
  cases listing with
  | wildcard => rfl
  | deny => rfl
  | members texts =>
      have hstar : "*" ∉ texts := fun h => ne_star_of_canList (hlisting _ h) rfl
      have hnone : Keyword.none.text ∉ texts :=
        fun h => ne_none_of_canList (hlisting _ h) rfl
      have hkept : texts.filterMap target? = texts := by
        have hsome : texts.filterMap target? = texts.filterMap some :=
          List.filterMap_congr fun text htext =>
            target?_of_canList (hlisting text htext)
        rw [hsome, List.filterMap_some]
      rw [targets, allowlist, if_neg hstar, if_neg hnone, hkept]
      rfl

theorem semicolon_not_mem_directive {feature : String} {listing : Listing}
    (hfeature : isDirectiveWord feature.toList = true)
    (hlisting : CanWrite listing) : ';' ∉ (directive feature listing).toList := by
  intro hmem
  have hchars : (directive feature listing).toList =
      [' '].intercalate ((feature :: targets listing).map String.toList) :=
    String.toList_intercalate
  rw [hchars] at hmem
  rcases mem_intercalate hmem with hspace | ⟨chars, hchars, hsemicolon⟩
  · exact absurd hspace (by decide)
  · obtain ⟨text, htext, rfl⟩ := List.mem_map.mp hchars
    rcases List.mem_cons.mp htext with rfl | htarget
    · exact (isDirectiveWord_iff.mp hfeature).2.2 hsemicolon
    · have hword := isDirectiveWord_of_mem_targets hlisting htarget
      exact (isDirectiveWord_iff.mp hword).2.2 hsemicolon

/-- A written directive gives the feature its allowlist. -/
theorem directive?_directive {feature : String} {listing : Listing}
    (hfeature : isDirectiveWord feature.toList = true)
    (hlisting : CanWrite listing) :
    directive? (directive feature listing).toList =
      some (feature, listing.allowlist) := by
  have hwords : words (directive feature listing).toList =
      (feature :: targets listing).map String.toList := by
    have hchars : (directive feature listing).toList =
        [' '].intercalate ((feature :: targets listing).map String.toList) :=
      String.toList_intercalate
    rw [hchars]
    apply words_intercalate
    intro text htext
    rcases List.mem_cons.mp htext with rfl | htarget
    · exact hfeature
    · exact isDirectiveWord_of_mem_targets hlisting htarget
  have hback : ((feature :: targets listing).map String.toList).map String.ofList =
      feature :: targets listing := by
    simp [Function.comp_def]
  rw [directive?, hwords, hback]
  exact congrArg (fun a => some (feature, a)) (allowlist_targets hlisting)

/-! ## Attributes -/

/-- Written directives are read one after the other. -/
theorem directives_intercalate {entries : List (String × Listing)}
    (hfeatures : ∀ entry ∈ entries, isDirectiveWord entry.1.toList = true)
    (hlistings : ∀ entry ∈ entries, CanWrite entry.2) :
    directives ([';', ' '].intercalate
        (entries.map fun entry => (directive entry.1 entry.2).toList)) =
      entries.map fun entry => (entry.1, entry.2.allowlist) := by
  induction entries with
  | nil => rfl
  | cons entry rest ih =>
      rw [List.forall_mem_cons] at hfeatures hlistings
      have hfirst : directives (directive entry.1 entry.2).toList =
          [(entry.1, entry.2.allowlist)] := by
        rw [directives_of_not_mem
          (semicolon_not_mem_directive hfeatures.1 hlistings.1),
          directive?_directive hfeatures.1 hlistings.1]
        rfl
      cases rest with
      | nil =>
          rw [List.map_singleton, List.intercalate_singleton]
          exact hfirst
      | cons next others =>
          have hrest := ih hfeatures.2 hlistings.2
          rw [List.map_cons] at hrest ⊢
          rw [List.map_cons, List.intercalate_cons_cons, List.append_assoc,
            List.cons_append, List.singleton_append, directives_append, hfirst,
            directives_cons_blank (by decide), hrest]
          rfl

/-- An attribute that is written for a map of allowlists is read as that
map. -/
theorem parse_written {listings : OrderedMap Listing}
    (hfeatures : ∀ feature ∈ listings.keys, isDirectiveWord feature.toList = true)
    (hlistings : ∀ entry ∈ listings.entries, CanWrite entry.2) :
    parse (write listings) =
      { form := .parsed, grants := listings.map Listing.allowlist } := by
  have hdirectives : directives (write listings).toList =
      (listings.map Listing.allowlist).entries := by
    have hentries : ∀ entry ∈ listings.entries,
        isDirectiveWord entry.1.toList = true := fun entry hentry =>
      hfeatures entry.1 (List.mem_map_of_mem hentry)
    rw [write, String.toList_intercalate, List.map_map]
    exact directives_intercalate hentries hlistings
  rw [parse, read, hdirectives, OrderedMap.ofList_entries]

end FeatureGrant.AllowAttribute
