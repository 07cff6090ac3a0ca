import SqlShorthand.Command.Verb

/-!
# Command/Basic — a command in its parts

    [2]users(id, email):add/ignore WHERE …

names a connection, a table, columns, a verb or a row, options, and a clause of SQL.
-/

namespace SqlShorthand

/-- The connection of a command that names none. -/
def defaultConnection : ConnectionId := 1

/-- The columns of a command. -/
inductive Columns where
  | all
  | named (names : List String)
  deriving Repr, DecidableEq

namespace Columns

/-- The names that were given. -/
def names : Columns → List String
  | all => []
  | named names => names

/-- The columns as SQL lists them. -/
def sql : Columns → String
  | all => "*"
  | named names => ", ".intercalate names

end Columns

/-- A command in its parts.  Without a verb it selects, by `rowId` if it has one. -/
structure Command where
  connection : ConnectionId := defaultConnection
  table : String := ""
  columns : Columns := .all
  rowId : Option String := none
  verb : Option Verb := none
  options : List String := []
  clause : String := ""
  deriving Repr, DecidableEq

namespace Command

/-- Whether the command selects without a verb. -/
def isSelect (c : Command) : Bool := c.verb.isNone

/-- The clause as it follows other SQL: after a space, or nothing. -/
def clauseSql (c : Command) : String := if c.clause.isEmpty then "" else " " ++ c.clause

end Command

end SqlShorthand
