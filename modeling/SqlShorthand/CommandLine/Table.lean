import SqlShorthand.Json.Printer

/-!
# CommandLine/Table — rows in columns

The first row decides the columns: its names, the places of its items, or a single one.  A column is
as wide as the longest of its texts in bytes, and texts are filled up by characters, so a text
outside ASCII leaves its column wider than need be.
-/

namespace SqlShorthand.CommandLine

/-- A text filled up with blanks at its end. -/
def padded (width : Nat) (s : String) : String :=
  s ++ String.ofList (List.replicate (width - s.length) ' ')

/-- The text of a value in a table. -/
def cellText : Json → String
  | .null => "NULL"
  | .str s => s
  | v => v.compact

/-- The columns that a first row gives. -/
def columnsOf : Json → List String
  | .obj members => members.map (·.1)
  | .arr items => (List.range items.length).map toString
  | _ => ["value"]

/-- The texts of a row; a column that a named row lacks is empty. -/
def cellsOf (columns : List String) : Json → List String
  | .obj members => columns.map fun c => ((Json.member? members c).map cellText).getD ""
  | .arr items => items.map cellText
  | v => [cellText v]

/-- Widths that a row's texts fit into; texts without a column do not count. -/
def widen : List Nat → List String → List Nat
  | w :: ws, cell :: cells => max w cell.utf8ByteSize :: widen ws cells
  | ws, _ => ws

/-- The texts of a row in their columns; texts without a column are left out. -/
def tableLine (widths : List Nat) (cells : List String) : String :=
  " │ ".intercalate (widths.zipWith padded cells)

/-- The line below the names. -/
def ruleLine (widths : List Nat) : String :=
  "─┼─".intercalate (widths.map fun w => String.ofList (List.replicate w '─'))

/-- The lines of a table of rows. -/
def tableLines : List Json → List String
  | [] => ["(no results)"]
  | first :: rest =>
    let rows := first :: rest
    let columns := columnsOf first
    let cells := rows.map (cellsOf columns)
    let widths := cells.foldl widen (columns.map String.utf8ByteSize)
    [tableLine widths columns, ruleLine widths] ++ cells.map (tableLine widths) ++
      ["", toString rows.length ++ " row(s) returned"]

end SqlShorthand.CommandLine
