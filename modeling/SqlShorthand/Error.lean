import SqlShorthand.Files.Fault

/-!
# Error — what can go wrong, and whom it concerns

Each constructor is a cause; `message` has its wording.  The class of an error decides who hears of
it: state and backend errors are *recordable* — noted on the connection, and returned only where the
connection says so — and all others always go back to the caller.
-/

namespace SqlShorthand

/-- The number of a connection. -/
abbrev ConnectionId := UInt32

/-- The cause of a failure. -/
inductive Error where
  /-- A command starts with `[` but not with `[digits]`. -/
  | connectionSyntax
  /-- The number in brackets does not fit a connection id. -/
  | connectionRange (digits : String)
  /-- The verb `query` came without SQL. -/
  | emptyQuery
  /-- A selector names no verb. -/
  | unknownVerb (name : String)
  /-- Paging was asked of SQL that has a LIMIT. -/
  | pagingConflict
  /-- Paging was asked of manual SQL that is no SELECT. -/
  | pagingNotSelect
  /-- A model was asked of a clause that has a LIMIT. -/
  | modelLimit
  /-- A write verb has no named values to write. -/
  | missingColumns (verb : String)
  /-- A verb works on a table and none was named. -/
  | missingTable (verb : String)
  /-- One statement has named and positional values. -/
  | mixedParams
  /-- A text is no expiry. -/
  | invalidExpiry (text : String)
  /-- A verb without SQL was compiled. -/
  | notSql (verb : String)
  | unknownConnection (id : ConnectionId)
  | duplicateConnection (id : ConnectionId)
  /-- A raw fragment was given where a value is bound. -/
  | rawParam (name : String)
  /-- A placeholder has no value. -/
  | missingParam (name : String)
  | backend (message : String)
  | connection (message : String)
  | cacheRead (key : String)
  | cacheWrite (key : String) (message : String)
  | invalidCacheKey (key : String)
  | settings (message : String)
  | files (fault : Files.Fault)
  deriving Repr, DecidableEq

/-- The coarse kinds of error. -/
inductive ErrorClass where
  | grammar
  | state
  | backend
  | cache
  | settings
  deriving Repr, DecidableEq

namespace Error

/-- The wording of an error. -/
def message : Error → String
  | connectionSyntax => "Parse error at position 0: Connection id must be digits: '[1]'"
  | connectionRange digits =>
    "Parse error at position 1: Connection id '" ++ digits ++ "' out of range"
  | emptyQuery => "Parse error at position 0: Command 'query' requires SQL"
  | unknownVerb name => "Invalid command '" ++ name ++ "'"
  | pagingConflict =>
    "Failed to apply pagination to query, LIMIT clause already exists in query"
  | pagingNotSelect =>
    "Failed to apply pagination to query, query must begin with SELECT keyword"
  | modelLimit => "Failed to initialize model object, LIMIT clause already exists in query"
  | missingColumns verb => verb ++ " failed: columns and values must be a keyed record"
  | missingTable verb => "Command '" ++ verb ++ "' requires a table"
  | mixedParams => "Cannot mix named and positional parameters"
  | invalidExpiry text => "Invalid cache expire '" ++ text ++ "'"
  | notSql verb => "Command '" ++ verb ++ "' does not produce SQL"
  | unknownConnection id => "Connection ID '" ++ toString id.toNat ++ "' does not exist"
  | duplicateConnection id => "Connection ID '" ++ toString id.toNat ++ "' already exists"
  | rawParam name =>
    "Invalid query parameter '" ++ name ++
      "': raw SQL cannot be bound (only bind scalar values)"
  | missingParam name => "Missing value for query parameter ':" ++ name ++ "'"
  | backend message => "Database error: " ++ message
  | connection message => "Connection error: " ++ message
  | cacheRead key => "Failed to read cache entry '" ++ key ++ "'"
  | cacheWrite key message => "Failed to write cache entry '" ++ key ++ "': " ++ message
  | invalidCacheKey key =>
    "Failed to set cache key '" ++ key ++
      "', invalid characters, only word characters and '-' allowed"
  | settings message => "Configuration error: " ++ message
  | files fault => "IO error: " ++ fault.message

/-- The class of an error. -/
def errorClass : Error → ErrorClass
  | connectionSyntax | connectionRange _ | emptyQuery | unknownVerb _ | pagingConflict
  | pagingNotSelect | modelLimit | missingColumns _ | missingTable _ | mixedParams
  | invalidExpiry _ | notSql _ => .grammar
  | unknownConnection _ | duplicateConnection _ | rawParam _ | missingParam _ => .state
  | backend _ | connection _ => .backend
  | cacheRead _ | cacheWrite _ _ => .cache
  | invalidCacheKey _ | settings _ | files _ => .settings

/-- Whether the error is noted on the connection it arose on. -/
def recordable (e : Error) : Bool := e.errorClass == .state || e.errorClass == .backend

end Error

end SqlShorthand
