import SqlShorthand.Error

/-!
# Command/Verb — what a command asks for

A verb has one or two spellings; the last one in the table is the one that is shown.
-/

namespace SqlShorthand

/-- What a command with a named action asks for. -/
inductive Verb where
  | insert
  | replace
  | call
  | callAffected
  | callRows
  | cache
  | columns
  | commit
  | count
  | debug
  | delete
  | error
  | errorLast
  | exists
  | id
  | key
  | log
  | logHandler
  | update
  | pagination
  | query
  | rollback
  | tables
  | transaction
  | truncate
  deriving Repr, DecidableEq

namespace Verb

/-- Every accepted spelling and its verb. -/
def spellings : List (String × Verb) :=
  [("add", insert), ("insert", insert), ("replace", replace), ("call", call),
   ("call_affected", callAffected), ("call_rows", callRows), ("cache", cache),
   ("columns", columns), ("commit", commit), ("count", count), ("debug", debug),
   ("del", delete), ("delete", delete), ("error", error), ("error_last", errorLast),
   ("exists", .exists), ("id", id), ("key", key), ("log", log), ("log_handler", logHandler),
   ("mod", update), ("update", update), ("pagination", pagination), ("query", query),
   ("rollback", rollback), ("tables", tables), ("transaction", transaction),
   ("truncate", truncate)]

/-- The verb with a spelling. -/
def ofName? (name : String) : Option Verb := spellings.lookup name

/-- The verb with a spelling, or the error that names it. -/
def ofName (name : String) : Except Error Verb :=
  match ofName? name with
  | some verb => .ok verb
  | none => .error (.unknownVerb name)

/-- The spelling that is shown. -/
def name (v : Verb) : String :=
  match spellings.reverse.find? fun (_, verb) => verb == v with
  | some (name, _) => name
  | none => "?"

/-- Whether the verb compiles to SQL. -/
def producesSql : Verb → Bool
  | insert | replace | call | callAffected | callRows | columns | count | delete | .exists
  | logHandler | update | query | tables | truncate => true
  | _ => false

/-- Whether the verb works on the command's table. -/
def needsTable : Verb → Bool
  | insert | replace | columns | count | delete | .exists | logHandler | update | truncate => true
  | _ => false

/-- Every verb can be spelled as it is shown. -/
theorem ofName?_name (v : Verb) : ofName? v.name = some v := by
  cases v <;> decide

end Verb

end SqlShorthand
