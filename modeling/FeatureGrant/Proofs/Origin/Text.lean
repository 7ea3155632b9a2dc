import FeatureGrant.Allowlist
import FeatureGrant.Origin

/-!
# The text of an origin

The text of an origin holds a colon, so it is neither empty nor one of the
keywords that may stand beside origins in an allowlist.
-/

namespace FeatureGrant

theorem canonical?_eq_some_iff {url text : String} :
    canonical? url = some text ↔ canonicalize url = .ok text := by
  rw [canonical?]
  cases canonicalize url with
  | error fault => exact ⟨nofun, nofun⟩
  | ok r =>
      constructor
      · intro h
        exact congrArg Except.ok (Option.some.inj h)
      · intro h
        exact congrArg some (Except.ok.inj h)

theorem ne_none_of_canonical? {url text : String}
    (htext : canonical? url = some text) : canonical? url ≠ none := by
  rw [htext]
  exact Option.some_ne_none text

/-- A text that is found to be an origin is the text of the origin read. -/
theorem exists_origin_of_canonical? {url text : String}
    (htext : canonical? url = some text) :
    ∃ o : Origin, Origin.read url.toList = .ok o ∧ o.text = text := by
  have hok := canonical?_eq_some_iff.mp htext
  rw [canonicalize] at hok
  cases horigin : Origin.read url.toList with
  | error fault =>
      rw [horigin] at hok
      exact nomatch hok
  | ok o =>
      rw [horigin] at hok
      exact ⟨o, rfl, Except.ok.inj hok⟩

theorem Origin.colon_mem_text (o : Origin) : ':' ∈ o.text.toList := by
  rw [Origin.text, String.toList_ofList, Origin.chars]
  simp

theorem colon_mem_of_canonical? {url text : String}
    (htext : canonical? url = some text) : ':' ∈ text.toList := by
  obtain ⟨o, -, rfl⟩ := exists_origin_of_canonical? htext
  exact o.colon_mem_text

theorem ne_empty_of_canonical? {url text : String}
    (htext : canonical? url = some text) : text ≠ "" := by
  rintro rfl
  exact nomatch colon_mem_of_canonical? htext

theorem colon_not_mem_keyword (k : Keyword) : ':' ∉ k.text.toList := by
  cases k with
  | self => decide
  | src => decide
  | none => decide

/-- No origin is written like a keyword. -/
theorem ne_keyword_of_canonical? {url text : String}
    (htext : canonical? url = some text) (k : Keyword) : text ≠ k.text := by
  rintro rfl
  exact colon_not_mem_keyword k (colon_mem_of_canonical? htext)

theorem some_ne_keyword_of_canonical? {url text : String}
    (htext : canonical? url = some text) (k : Keyword) :
    some text ≠ some k.text := by
  intro h
  exact ne_keyword_of_canonical? htext k (Option.some.inj h)

end FeatureGrant
