import SqlShorthand.Command.Basic

/-!
# Command/Printer — a command as text

The form that names everything: brackets always, one space before a clause.
-/

namespace SqlShorthand.Command

/-- The column list, nothing when all columns are meant. -/
def renderColumns : Columns → String
  | .all => ""
  | .named names => "(" ++ ", ".intercalate names ++ ")"

/-- The verb or the row. -/
def renderSelector (c : Command) : String :=
  match c.verb, c.rowId with
  | some verb, _ => ":" ++ verb.name
  | none, some row => "." ++ row
  | none, none => ""

/-- The text of a command. -/
def render (c : Command) : String :=
  "[" ++ toString c.connection.toNat ++ "]" ++ c.table ++ renderColumns c.columns ++
    c.renderSelector ++ String.join (c.options.map ("/" ++ ·)) ++ c.clauseSql

end SqlShorthand.Command
