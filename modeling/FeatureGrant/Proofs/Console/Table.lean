import FeatureGrant.Console.Table
import FeatureGrant.Proofs.Console.Shown
import FeatureGrant.Proofs.Text.Pieces
import FeatureGrant.Proofs.Url.Head

/-!
# What stands in the columns of a table

The lines of a row are read column by column.  A cell with an escaped text of one
line has one line, and each character of an escaped text is found in some line of
its cell, unless it is blank or a console does not show it.
-/

namespace FeatureGrant.Console

open FeatureGrant.Text FeatureGrant.Url

/-- What stands in a column, line by line. -/
def column (i : Nat) (lines : List (List String)) : List String :=
  lines.map fun texts => (texts[i]?).getD ""

/-- Beside a cell that is no longer, a cell is read as it is. -/
theorem column_rowLines {a b : String}
    (hlength : (cellLines a).length ≤ (cellLines b).length) :
    column 1 (rowLines [a, b]) = cellLines b := by
  have hheight : ([a, b].map cellLines).map (·.length) =
      [(cellLines a).length, (cellLines b).length] := rfl
  rw [column, rowLines, List.map_map, hheight]
  apply List.ext_getElem
  · simp [hlength]
  · intro i _ hi
    simp [List.getElem?_eq_getElem hi]

/-! ## Cells with escaped texts -/

theorem mem_widenTabs {s : List Char} {c : Char} (hc : c ∈ s) (htab : c ≠ '\t')
    (n : Nat) : c ∈ widenTabs n s := by
  induction s generalizing n with
  | nil => exact nomatch hc
  | cons d rest ih =>
      rw [widenTabs]
      split
      next hd =>
        rcases List.mem_cons.mp hc with rfl | hc
        · exact absurd (beq_iff_eq.mp hd) htab
        · exact List.mem_append_right _ (ih hc _)
      next =>
        rcases List.mem_cons.mp hc with rfl | hc
        · exact List.mem_cons_self
        · exact List.mem_cons_of_mem d (ih hc _)

/-- A cell with an escaped text of one line has one line. -/
theorem length_cellLines_escape {text : String} (htext : '\n' ∉ text.toList) :
    (cellLines (escape text)).length = 1 := by
  obtain ⟨shown, hshown, hmem⟩ := exists_shown?_escape text
  have hline : '\n' ∉ shown.toList := fun h =>
    htext ((hmem '\n' (by decide)).mp h).1
  rw [cellLines, hshown, Option.getD_some, List.length_map,
    List.splitOn_eq_singleton hline]
  rfl

/-- A character of an escaped text is found in a line of its cell. -/
theorem exists_mem_cellLines_escape {text : String} {c : Char}
    (hc : c ∈ text.toList) (hblank : isBlank c = false) (hslash : c ≠ '\\')
    (hshows : isShown c = true) :
    ∃ line ∈ cellLines (escape text), c ∈ line.toList := by
  obtain ⟨shown, hshown, hmem⟩ := exists_shown?_escape text
  have hne {d : Char} (hd : isBlank d = true) : c ≠ d := by
    rintro rfl
    exact nomatch hblank.symm.trans hd
  have hcs : c ∈ shown.toList := (hmem c hslash).mpr ⟨hc, hshows⟩
  obtain ⟨line, hline, hcline⟩ :=
    (mem_splitOn_of_mem '\n' hcs).resolve_left (hne (by decide))
  rw [cellLines, hshown, Option.getD_some]
  refine ⟨_, List.mem_map_of_mem hline, ?_⟩
  rw [String.toList_ofList]
  exact mem_trim_of_mem (mem_widenTabs hcline (hne (by decide)) 0) hblank

end FeatureGrant.Console
