import SqlShorthand.Text.Blank
import SqlShorthand.KeyMap
import SqlShorthand.Literal
import SqlShorthand.Command.Reader

/-!
# Command/Scope — a clause narrowed to one row

A predicate goes in front of the clause: into the conditions of a leading WHERE, or before whatever
else the clause holds.
-/

namespace SqlShorthand.Command

/-- What follows the letters `word` in any ASCII case. -/
def afterKeyword? : List Char → List Char → Option (List Char)
  | [], s => some s
  | _ :: _, [] => none
  | w :: ws, c :: cs => if c.toLower == w then afterKeyword? ws cs else none

/-- The conditions after a leading WHERE, if the text starts with that word. -/
def conditions? (s : List Char) : Option (List Char) :=
  match afterKeyword? ['w', 'h', 'e', 'r', 'e'] s with
  | some [] => some []
  | some (c :: rest) => if Text.isBlank c then some (Text.trim rest) else none
  | none => none

/-- A clause with a predicate in front. -/
def scopedClause (predicate : String) (clause : String) : String :=
  let rest := Text.trim clause.toList
  match conditions? rest with
  | some [] => "WHERE " ++ predicate
  | some conditions => "WHERE " ++ predicate ++ " AND " ++ .ofList conditions
  | none =>
    if rest.isEmpty then "WHERE " ++ predicate
    else "WHERE " ++ predicate ++ " " ++ .ofList rest

/-- Narrows the command to rows where `key` has the value that `literal` writes. -/
def scopeToRow (c : Command) (key literal : String) : Command :=
  { c with clause := scopedClause (key ++ "=" ++ literal) c.clause }

/-- Narrows the command to rows where `key` has the value bound under its own name. -/
def scopeToModelKey (c : Command) (key : String) : Command :=
  { c with clause := scopedClause (key ++ "=:" ++ key) c.clause }

/-- Narrows a command that selects a row of a table; `quote` writes the row's id. -/
def scopeRow (c : Command) (keys : KeyMap) (quote : String → String) : Command :=
  match c.rowId with
  | some id => if c.table.isEmpty then c else c.scopeToRow (keys.get c.table) (quote id)
  | none => c

/-- The command that a text denotes, narrowed to its row. -/
def tokenize (text : String) (keys : KeyMap) : Except Error Command :=
  match parse text with
  | .ok c => .ok (c.scopeRow keys Literal.quote)
  | .error e => .error e

end SqlShorthand.Command
