import FeatureGrant.Console.Table

/-!
# Table layout

Lays the lines of a table out in columns that are as wide as their widest cell.
-/

namespace FeatureGrant.Console

/-- The width of every column. -/
def columnWidths : List (List String) → List Nat
  | [] => []
  | row :: rest =>
    let below := columnWidths rest
    (List.range (max row.length below.length)).map fun i =>
      max (((row[i]?).map (·.length)).getD 0) ((below[i]?).getD 0)

/-- A cell filled up with spaces. -/
def padCell (width : Nat) (cell : String) : String :=
  cell ++ String.ofList (List.replicate (width - cell.length) ' ')

/-- The rows as lines of text, with two spaces between columns. -/
def layOut (rows : List (List String)) : List String :=
  let widths := columnWidths rows
  rows.map fun row => "  ".intercalate (List.zipWith padCell widths row)

end FeatureGrant.Console
