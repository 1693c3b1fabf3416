import ClassAtlas.Text.Split
import ClassAtlas.Text.Width

/-!
# Tables

A table for a fixed-width display: cells padded to the width of their column with
a space on each side, bars between columns and a line under the header. A cell of
several lines makes its row as high.
-/

namespace ClassAtlas

structure Table where
  header : List String
  rows : List (List String)

namespace Table

def cellLines (cell : String) : List String :=
  (cell.toList.splitOn '\n').map String.ofList

def maximum (values : List Nat) : Nat :=
  values.foldl max 0

def cellWidth (cell : String) : Nat :=
  maximum ((cellLines cell).map Text.displayWidth)

def columnWidth (table : Table) (index : Nat) : Nat :=
  maximum ((table.header :: table.rows).map fun row => cellWidth ((row[index]?).getD ""))

def widths (table : Table) : List Nat :=
  (List.range table.header.length).map table.columnWidth

def spaces (count : Nat) : String :=
  String.ofList (List.replicate count ' ')

def padded (cell : String) (width : Nat) : String :=
  " " ++ cell ++ spaces (width - Text.displayWidth cell) ++ " "

def line (widths : List Nat) (cells : List String) : String :=
  "|".intercalate (List.zipWith padded cells widths)

def rowLines (widths : List Nat) (cells : List String) : List String :=
  let height := maximum (cells.map fun cell => (cellLines cell).length)
  (List.range height).map fun index =>
    line widths (cells.map fun cell => ((cellLines cell)[index]?).getD "")

def ruler (widths : List Nat) : String :=
  "+".intercalate (widths.map fun width => String.ofList (List.replicate (width + 2) '-'))

def render (table : Table) : String :=
  "\n".intercalate
    (rowLines table.widths table.header ++ ruler table.widths ::
      table.rows.flatMap (rowLines table.widths))

end Table
end ClassAtlas
