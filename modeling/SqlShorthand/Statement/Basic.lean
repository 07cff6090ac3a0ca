import SqlShorthand.Params
import SqlShorthand.Options
import SqlShorthand.Command.Basic
import SqlShorthand.Statement.Shape

/-!
# Statement/Basic — a command compiled to SQL

Values become placeholders, except raw fragments: those are written out, and an empty one drops its
column.
-/

namespace SqlShorthand

/-- One SQL statement, its values, and how its result is read. -/
structure Statement where
  sql : String
  params : Params
  reading : Reading
  deriving DecidableEq

namespace Statement

/-- What a statement writes for a value: its placeholder, or the fragment that it is; nothing for
an empty fragment. -/
def written? (placeholder : String) : Value → Option String
  | .raw sql => if sql.isEmpty then none else some sql
  | _ => some placeholder

/-- The fields whose values are bound. -/
def boundFields (r : Record) : Record := .ofList (r.fields.filter fun (_, v) => !v.isRaw)

/-- The columns that a write names. -/
def writtenColumns (r : Record) : List String :=
  r.fields.filterMap fun (column, v) => (written? "" v).map fun _ => column

/-- What a write gives for each of them. -/
def writtenValues (r : Record) : List String :=
  r.fields.filterMap fun (column, v) => written? (":" ++ column) v

/-- The assignments of an update. -/
def assignments (r : Record) : List String :=
  r.fields.filterMap fun (column, v) => (written? (":" ++ column) v).map (column ++ " = " ++ ·)

/-- The arguments of a call. -/
def callArguments (vs : List Value) : List String := vs.filterMap (written? "?")

/-- The first argument of a command. -/
def firstParams (args : List Params) : Params := args.headD .none

/-- The named values that a write needs. -/
def recordOf (args : List Params) (verb : String) : Except Error Record :=
  match args.head?.bind Params.asRecord? with
  | some r => if r.isEmpty then .error (.missingColumns verb) else .ok r
  | none => .error (.missingColumns verb)

/-- An INSERT or REPLACE of the first argument's fields. -/
def insert (keyword table : String) (options : Options) (args : List Params) :
    Except Error Statement :=
  match recordOf args "Insert" with
  | .error e => .error e
  | .ok r =>
    .ok
      { sql := keyword ++ options.modifierSql ++ " INTO " ++ table ++ "(" ++
          ", ".intercalate (writtenColumns r) ++ ") VALUES(" ++
          ", ".intercalate (writtenValues r) ++ ")"
        params := .ofRecord (boundFields r)
        reading := .affected }

/-- The values of an update: those it sets, and those of its clause.  Positional ones go with
nothing else. -/
def updateParams (bound : Record) : Option Params → Except Error Params
  | none | some .none => .ok (.ofRecord bound)
  | some (.named extra) => .ok (.ofRecord (bound.merge extra))
  | some (.positional vs) => if bound.isEmpty then .ok (.positional vs) else .error .mixedParams

/-- An UPDATE that sets the first argument's fields. -/
def update (c : Command) (options : Options) (args : List Params) : Except Error Statement :=
  match recordOf args "Update" with
  | .error e => .error e
  | .ok r =>
    match updateParams (boundFields r) args[1]? with
    | .error e => .error e
    | .ok params =>
      .ok
        { sql := "UPDATE" ++ options.modifierSql ++ " " ++ c.table ++ " SET " ++
            ", ".intercalate (assignments r) ++ c.clauseSql
          params
          reading := .affected }

/-- How the result of a call is read. -/
def callReading : Verb → Reading
  | .callAffected => .affected
  | .callRows => .rows
  | _ => .byKeyword

/-- A CALL of the procedure that the clause names. -/
def call (verb : Verb) (c : Command) (args : List Params) : Statement :=
  let values := (firstParams args).values
  let bound := values.filter (!·.isRaw)
  { sql := "CALL" ++ c.clauseSql ++ "(" ++ ", ".intercalate (callArguments values) ++ ")"
    params := if bound.isEmpty then .none else .positional bound
    reading := callReading verb }

end Statement

namespace Command

/-- What the command is called when its table is missing. -/
def actionName (c : Command) : String := (c.verb.map Verb.name).getD "select"

/-- Whether the command works on a table. -/
def needsTable (c : Command) : Bool := (c.verb.map Verb.needsTable).getD true

/-- The statement of a command whose table is there if it needs one. -/
def compileBody (c : Command) (options : Options) (args : List Params) :
    Except Error Statement :=
  let given := Statement.firstParams args
  match c.verb with
  | none =>
    .ok ⟨"SELECT" ++ options.modifierSql ++ " " ++ c.columns.sql ++ " FROM " ++ c.table ++
      c.clauseSql, given, .rows⟩
  | some .insert | some .logHandler => Statement.insert "INSERT" c.table options args
  | some .replace => Statement.insert "REPLACE" c.table options args
  | some .update => Statement.update c options args
  | some .delete =>
    .ok ⟨"DELETE" ++ options.modifierSql ++ " FROM " ++ c.table ++ c.clauseSql, given, .affected⟩
  | some .call => .ok (Statement.call .call c args)
  | some .callAffected => .ok (Statement.call .callAffected c args)
  | some .callRows => .ok (Statement.call .callRows c args)
  | some .count =>
    .ok ⟨"SELECT COUNT(1) AS count FROM " ++ c.table ++ c.clauseSql, given, .rows⟩
  | some .exists =>
    .ok ⟨"SELECT EXISTS(SELECT 1 FROM " ++ c.table ++ c.clauseSql ++ ") AS is_set", given, .rows⟩
  | some .columns => .ok ⟨"SHOW COLUMNS FROM " ++ c.table, .none, .rows⟩
  | some .tables => .ok ⟨"SHOW TABLES", .none, .rows⟩
  | some .truncate => .ok ⟨"TRUNCATE " ++ c.table, .none, .byKeyword⟩
  | some .query =>
    if c.clause.isEmpty then .error .emptyQuery else .ok ⟨c.clause, given, .byKeyword⟩
  | some verb => .error (.notSql verb.name)

/-- The statement of a command. -/
def compile (c : Command) (options : Options) (args : List Params) : Except Error Statement :=
  if c.needsTable && c.table.isEmpty then .error (.missingTable c.actionName)
  else c.compileBody options args

end Command

end SqlShorthand
