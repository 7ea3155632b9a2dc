import FeatureGrant.Console.Markup

/-!
# Tables

Tables of marked-up cells.  A cell of several lines makes its row as high, and
the cells beside its further lines are empty.
-/

namespace FeatureGrant.Console

open FeatureGrant.Text

/-- A table with a title and a row of headings. -/
structure Table where
  title : String
  headings : List String
  rows : List (List String)
  deriving DecidableEq, Repr

/-- The marked-up texts of a table. -/
def Table.texts (t : Table) : List String := t.title :: (t.headings :: t.rows).flatten

/-- A line with its tabs widened to the next multiple of eight columns. -/
def widenTabs (column : Nat) : List Char → List Char
  | [] => []
  | c :: rest =>
    if c == '\t' then
      let width := 8 - column % 8
      List.replicate width ' ' ++ widenTabs (column + width) rest
    else c :: widenTabs (column + 1) rest

/-- The lines of a cell as they are shown. -/
def cellLines (marked : String) : List String :=
  let text := (shown? marked).getD marked
  (text.toList.splitOn '\n').map fun line => String.ofList (trim (widenTabs 0 line))

/-- The lines of a row, each with one text for every cell. -/
def rowLines (cells : List String) : List (List String) :=
  let columns := cells.map cellLines
  let height := (columns.map (·.length)).foldl max 0
  (List.range height).map fun i => columns.map fun lines => (lines[i]?).getD ""

/-- All lines of a table. -/
def Table.lines (t : Table) : List (List String) := (t.headings :: t.rows).flatMap rowLines

end FeatureGrant.Console
