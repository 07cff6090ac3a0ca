import SqlShorthand.CommandLine.Arguments
import SqlShorthand.CommandLine.Table
import SqlShorthand.Options
import SqlShorthand.Session.Output
import SqlShorthand.Statement.Basic

/-!
# CommandLine/Report — what the program prints
-/

namespace SqlShorthand.CommandLine

/-- Lines, each with its end. -/
def unlines (lines : List String) : String := String.join (lines.map (· ++ "\n"))

/-- The program's name. -/
def programName : String := "rapidsql"

/-- The program's version. -/
def versionText : String := programName ++ " 0.1.0\n"

/-- What the program says when it is called without a command. -/
def usageText : String :=
  unlines
    [programName, "", "Usage: " ++ programName ++ " <COMMAND> [OPTIONS]", "",
     "Try: " ++ programName ++ " --help"]

/-- What the program says of its options. -/
def helpText : String :=
  unlines
    ["Compile and run compact SQL command strings", "",
     "Usage: " ++ programName ++ " [OPTIONS] [COMMAND]",
     "       " ++ programName ++ " [OPTIONS] explain <COMMAND>",
     "       " ++ programName ++ " verbs", "",
     "Options:",
     "  -d, --dry-run            Don't execute, just show the generated SQL",
     "  -s, --set <NAME=VALUE>   Column values for add/mod",
     "  -b, --bind <NAME=VALUE>  Named parameters",
     "  -a, --arg <VALUE>        Positional parameters",
     "      --decorate <TEXT>    Decorate the result with a template",
     "  -f, --format <FORMAT>    Output format: table or json",
     "  -c, --config <FILE>      Configuration file",
     "  -v, --verbose            Verbose output",
     "  -h, --help               Print help",
     "  -V, --version            Print version"]

/-- What the program says of arguments that it refuses. -/
def refusalText : String :=
  "error: invalid arguments\n\nFor more information, try '--help'.\n"

/-- The verbs with what they do and the SQL they stand for. -/
def verbReference : List (String × String × String) :=
  [("add, insert", "Insert a record", "INSERT INTO t(...) VALUES(...)"),
   ("replace", "Replace a record", "REPLACE INTO t(...) VALUES(...)"),
   ("mod, update", "Update records", "UPDATE t SET ..."),
   ("del, delete", "Delete records", "DELETE FROM t"),
   ("call*", "Call a stored procedure", "CALL sp(?, ?)"),
   ("count", "Count records", "SELECT COUNT(1) AS count"),
   ("exists", "Check for records", "SELECT EXISTS(...)"),
   ("columns", "List table columns", "SHOW COLUMNS FROM t"),
   ("tables", "List tables", "SHOW TABLES"),
   ("truncate", "Empty a table", "TRUNCATE t"),
   ("query", "Run SQL verbatim", "<clause>"),
   ("key", "Get or set a primary key column", "-"),
   ("cache", "Set the next cache expiry", "-"),
   ("pagination", "Get or set pagination", "-"),
   ("id", "Last insert id", "-"),
   ("error, error_last", "Error state", "-"),
   ("log, debug", "Debug log and connection info", "-"),
   ("transaction", "Begin a transaction", "START TRANSACTION"),
   ("commit, rollback", "End a transaction", "COMMIT / ROLLBACK")]

/-- A line of the list of verbs. -/
def verbLine (verb function sql : String) : String :=
  padded 20 verb ++ " " ++ padded 34 function ++ " " ++ sql

/-- The list of verbs and options. -/
def verbsText : String :=
  unlines
    (["Verb Reference", "", verbLine "Verb" "Function" "SQL Equivalent",
      String.ofList (List.replicate 80 '─')] ++
     verbReference.map (fun (verb, function, sql) => verbLine verb function sql) ++
     ["", "Options"] ++
     Flag.all.map (fun f => "  /" ++ Text.lowerAscii f.name) ++
     ["  any other /token is passed through as a SQL keyword"])

/-- A compiled statement that is not run. -/
def statementText (s : Statement) : String :=
  unlines
    (["Generated SQL:", s.sql] ++
     if s.params.isEmpty then [] else ["", "Bindings:", "  " ++ s.params.describe])

/-- What follows a statement that could not be run for want of a connection. -/
def unconfiguredText : String :=
  unlines ["", "⚠ No connections configured. Use --config or create rapidsql.toml"]

/-! ## Explaining a command -/

/-- The head of an explanation. -/
def explainHead (command : String) : String :=
  unlines ["Command Explanation", "", "Input: " ++ command, ""]

/-- What the selector of a command says. -/
def selectorLine (c : Command) : String :=
  match c.verb, c.rowId with
  | some verb, _ => "  Verb: " ++ verb.name
  | none, some id => "  Row: " ++ id
  | none, none => "  Verb: select"

/-- The parts of a command. -/
def structureText (c : Command) (o : Options) : String :=
  let flags := o.flags.toList.map Flag.name
  unlines
    (["Parsed Structure:", "  Connection: " ++ toString c.connection.toNat,
      "  Table: " ++ c.table, "  Columns: " ++ c.columns.sql, selectorLine c] ++
     (if flags.isEmpty then [] else ["  Options: " ++ ", ".intercalate flags]) ++
     (if o.modifiers.isEmpty then [] else ["  Modifiers: " ++ " ".intercalate o.modifiers]) ++
     (if c.clause.isEmpty then [] else ["  Clause: " ++ c.clause]))

/-- The statement at the end of an explanation. -/
def explainedSql (sql : String) : String := unlines ["", "Generated SQL:", "  " ++ sql]

/-- The end of an explanation of a command without SQL. -/
def explainedControl : String := unlines ["", "(no SQL: engine command)"]

/-! ## Results -/

/-- The line below a page. -/
def pageLine (p : Paging.Page) : String :=
  "Pagination: page " ++ toString p.page ++ " (rpp " ++ toString p.rpp ++ "), next " ++
    toString p.next ++ ", prev " ++ toString p.prev

/-- A result as JSON. -/
def jsonText (o : Output) : String := unlines [o.toJson.pretty]

/-- A result for a reader. -/
def plainText (o : Output) : String :=
  match o with
  | .rows rows => unlines (tableLines rows)
  | .row (some row) => unlines (tableLines [row])
  | .row none => unlines ["(no record)"]
  | .paged page rows => unlines (tableLines rows ++ [pageLine page])
  | .pagedText _ text | .text text => text
  | .affected n => unlines ["✓ " ++ toString n ++ " rows affected"]
  | .count n => unlines [toString n]
  | .bool b => unlines [if b then "true" else "false"]
  | .id n => unlines ["Last insert id: " ++ toString n]
  | .sql sql => unlines [sql]
  | .names names => unlines (names.map ("  • " ++ ·))
  | .key key => unlines [key]
  | .lastError (some message) => unlines [message]
  | .lastError none => unlines ["(no error)"]
  | .log lines => unlines lines
  | .done => unlines ["✓ Done"]
  | o => jsonText o

/-- A result in a format. -/
def resultText (o : Output) : Format → String
  | .table => plainText o
  | .json => jsonText o

end SqlShorthand.CommandLine
