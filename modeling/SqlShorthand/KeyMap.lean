import SqlShorthand.Text.Blank

/-!
# KeyMap — the key column of each table

A table without an entry has the key column `id`.  Entries are kept in the order of table names.
-/

namespace SqlShorthand

/-- The key column of a table without an entry. -/
def defaultKey : String := "id"

/-- Tables and their key columns, by ascending table name. -/
structure KeyMap where
  entries : List (String × String) := []
  deriving Repr, DecidableEq, Inhabited

namespace KeyMap

/-- Puts an entry in its place among ascending names. -/
def insertSorted (table key : String) : List (String × String) → List (String × String)
  | [] => [(table, key)]
  | (t, k) :: rest =>
    if t == table then (t, key) :: rest
    else if table < t then (table, key) :: (t, k) :: rest
    else (t, k) :: insertSorted table key rest

/-- The key column of a table. -/
def get (m : KeyMap) (table : String) : String := (m.entries.lookup table).getD defaultKey

/-- Sets the key column of a table; a blank name changes nothing. -/
def set (m : KeyMap) (table key : String) : KeyMap :=
  if Text.allBlank key then m else ⟨insertSorted table (Text.trimmed key) m.entries⟩

/-- Sets each pair in turn. -/
def setAll (m : KeyMap) (pairs : List (String × String)) : KeyMap :=
  pairs.foldl (fun acc (table, key) => acc.set table key) m

end KeyMap

end SqlShorthand
