import TableShell.Entry

/-!
# Tables as text

Rows are shown as a table between rules, one column per header. Integers stand on the right of their
column and all else on the left. A column is as wide as its longest text, up to a limit; a longer
text is cut and ends in three dots. Widths count code points.
-/

namespace TableShell.Layout

def maxWidth : Nat := 50

structure Cell where
  text : List Char
  onRight : Bool := false
  deriving DecidableEq, Repr

/-- A field that the row lacks gives an empty cell. -/
def Cell.of : Option Value → Cell
  | none => ⟨[], false⟩
  | some v => ⟨v.display.toList, v.int?.isSome⟩

def cells (rows : List Row) (header : String) : List Cell := rows.map fun row => .of row[header]?

def columnWidth (rows : List Row) (header : String) : Nat :=
  min maxWidth (((cells rows header).map (·.text.length)).foldl max (max 1 header.length))

def truncate (width : Nat) (text : List Char) : List Char :=
  if text.length ≤ width then text else text.take (width - 3) ++ ['.', '.', '.']

def fill (width : Nat) (cell : Cell) : List Char :=
  let text := truncate width cell.text
  let blanks := List.replicate (width - text.length) ' '
  if cell.onRight then blanks ++ text else text ++ blanks

def rule (widths : List Nat) : List Char :=
  '+' :: widths.flatMap (fun w => List.replicate (w + 2) '-' ++ ['+']) ++ ['\n']

def line (widths : List Nat) (cells : List Cell) : List Char :=
  '|' :: (widths.zip cells).flatMap (fun (w, cell) => ' ' :: fill w cell ++ [' ', '|']) ++ ['\n']

def segments (headers : List String) (rows : List Row) : List (List Char) :=
  let widths := headers.map (columnWidth rows)
  [rule widths, line widths (headers.map fun h => ⟨h.toList, false⟩), rule widths] ++
    rows.map (fun row => line widths (headers.map fun h => .of row[h]?)) ++ [rule widths]

def table (headers : List String) (rows : List Row) : String :=
  String.ofList (segments headers rows).flatten

/-- The table with the number of its rows below it, or a remark that there is no row. -/
def rowSet (headers : List String) (rows : List Row) : String :=
  if rows.isEmpty then "Empty set"
  else
    table headers rows ++ toString rows.length ++ (if rows.length = 1 then " row" else " rows") ++
      " in set"

end TableShell.Layout
