import FeatureGrant.Text.Blank
import Mathlib.Data.List.Basic

/-!
# Texts in pieces

Where the characters are when a text is split at a separator or joined with
one.
-/

namespace FeatureGrant.Text

/-! ## Splitting -/

/-- A piece holds elements of the list, and none that separates. -/
theorem mem_and_of_mem_splitOnP {α : Type} {p : α → Bool} {s piece : List α} {x : α}
    (hpiece : piece ∈ s.splitOnP p) (hx : x ∈ piece) : x ∈ s ∧ p x = false := by
  induction s generalizing piece with
  | nil =>
      rw [List.splitOnP_nil, List.mem_singleton] at hpiece
      rw [hpiece] at hx
      exact nomatch hx
  | cons y rest ih =>
      have hbehind {piece : List α} (hpiece : piece ∈ rest.splitOnP p)
          (hx : x ∈ piece) : x ∈ y :: rest ∧ p x = false :=
        (ih hpiece hx).imp_left (List.mem_cons_of_mem y)
      rw [List.splitOnP_cons_eq_if_modifyHead] at hpiece
      split at hpiece
      next =>
        rcases List.mem_cons.mp hpiece with rfl | hrest
        · exact nomatch hx
        · exact hbehind hrest hx
      next hy =>
        cases hpieces : rest.splitOnP p with
        | nil =>
            rw [hpieces] at hpiece
            exact nomatch hpiece
        | cons first others =>
            rw [hpieces] at hbehind hpiece
            rcases List.mem_cons.mp hpiece with rfl | hothers
            · rcases List.mem_cons.mp hx with rfl | hx
              · exact ⟨List.mem_cons_self, Bool.eq_false_iff.mpr hy⟩
              · exact hbehind List.mem_cons_self hx
            · exact hbehind (List.mem_cons_of_mem first hothers) hx

theorem mem_of_mem_splitOnP {α : Type} {p : α → Bool} {s piece : List α} {x : α}
    (hpiece : piece ∈ s.splitOnP p) (hx : x ∈ piece) : x ∈ s :=
  (mem_and_of_mem_splitOnP hpiece hx).1

theorem isBlank_of_mem_words {s word : List Char} (hword : word ∈ words s) {c : Char}
    (hc : c ∈ word) : isBlank c = false :=
  (mem_and_of_mem_splitOnP (List.mem_of_mem_filter hword) hc).2

/-- A text is split at the same places if its characters are replaced by such
that separate where they do. -/
theorem splitOn_map {f : Char → Char} {sep : Char}
    (hf : ∀ c, (f c == sep) = (c == sep)) (s : List Char) :
    (s.map f).splitOn sep = (s.splitOn sep).map (List.map f) := by
  induction s with
  | nil => rfl
  | cons c rest ih =>
      rw [List.map_cons, List.splitOn_cons_eq_if_modifyHead,
        List.splitOn_cons_eq_if_modifyHead, hf, ih]
      cases c == sep with
      | true => rfl
      | false =>
          cases rest.splitOn sep with
          | nil => rfl
          | cons first others => rfl

/-! ## Joining -/

theorem mem_intercalate {sep : Char} {labels : List (List Char)} {c : Char}
    (hc : c ∈ [sep].intercalate labels) : c = sep ∨ ∃ label ∈ labels, c ∈ label := by
  induction labels with
  | nil => exact nomatch hc
  | cons label rest ih =>
      cases rest with
      | nil =>
          rw [List.intercalate_singleton] at hc
          exact Or.inr ⟨label, List.mem_cons_self, hc⟩
      | cons next others =>
          rw [List.intercalate_cons_cons, List.mem_append, List.mem_append,
            List.mem_singleton] at hc
          rcases hc with (hlabel | hsep) | hrest
          · exact Or.inr ⟨label, List.mem_cons_self, hlabel⟩
          · exact Or.inl hsep
          · rcases ih hrest with hsep | ⟨l, hl, hcl⟩
            · exact Or.inl hsep
            · exact Or.inr ⟨l, List.mem_cons_of_mem label hl, hcl⟩

theorem mem_intercalate_of_mem {sep : List Char} {labels : List (List Char)}
    {label : List Char} (hlabel : label ∈ labels) {c : Char} (hc : c ∈ label) :
    c ∈ sep.intercalate labels := by
  induction labels with
  | nil => exact nomatch hlabel
  | cons first rest ih =>
      cases rest with
      | nil =>
          obtain rfl := List.mem_singleton.mp hlabel
          rw [List.intercalate_singleton]
          exact hc
      | cons next others =>
          rw [List.intercalate_cons_cons, List.mem_append, List.mem_append]
          rcases List.mem_cons.mp hlabel with rfl | hrest
          · exact Or.inl (Or.inl hc)
          · exact Or.inr (ih hrest)

theorem intercalate_ne_nil {sep label : List Char} {rest : List (List Char)}
    (hlabel : label ≠ []) : sep.intercalate (label :: rest) ≠ [] := by
  cases rest with
  | nil =>
      rw [List.intercalate_singleton]
      exact hlabel
  | cons next others =>
      rw [List.intercalate_cons_cons, List.append_assoc]
      exact List.append_ne_nil_of_left_ne_nil hlabel _

theorem mem_splitOn_of_mem (sep : Char) {s : List Char} {c : Char} (hc : c ∈ s) :
    c = sep ∨ ∃ piece ∈ s.splitOn sep, c ∈ piece := by
  have hjoined : [sep].intercalate (s.splitOn sep) = s := List.intercalate_splitOn sep
  rw [← hjoined] at hc
  exact mem_intercalate hc

theorem all_of_splitOn {p : Char → Bool} {sep : Char} (hsep : p sep = true)
    {s : List Char} (hs : ∀ piece ∈ s.splitOn sep, piece.all p = true) :
    s.all p = true := by
  rw [List.all_eq_true]
  intro c hc
  rcases mem_splitOn_of_mem sep hc with rfl | ⟨piece, hpiece, hc⟩
  · exact hsep
  · exact List.all_eq_true.mp (hs piece hpiece) c hc

end FeatureGrant.Text
