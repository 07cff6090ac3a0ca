import SqlShorthand.Event
import SqlShorthand.KeyMap
import SqlShorthand.Json.Printer
import SqlShorthand.Text.Quoted

/-!
# Connection — one registered backend

A connection has its configuration, the key columns of its tables, a log, its last error, and — from
its first use on — an open link to the backend.
-/

namespace SqlShorthand

/-- How a backend is reached, and what becomes of its log and its errors. -/
structure ConnectionConfig where
  /-- The id that is asked for; without one the next free id is taken. -/
  id : Option ConnectionId := none
  host : String
  port : Option UInt16 := none
  database : String
  user : String
  password : String
  /-- Whether a log is kept. -/
  logging : Bool := true
  /-- Whether recordable errors go back to the caller. -/
  surfaceErrors : Bool := true
  /-- Accepted, without effect. -/
  objectResults : Bool := true
  /-- Whether an error handler takes the messages that would go back to the caller. -/
  errorHandler : Bool := false
  /-- Gets every log line; a line for which it says true is not kept. -/
  logHandler : Option (String → Bool) := none

namespace ConnectionConfig

/-- Whether host, database and user are named. -/
def isComplete (c : ConnectionConfig) : Bool :=
  !(Text.allBlank c.host || Text.allBlank c.database || Text.allBlank c.user)

/-- An optional number in a description. -/
def describeNumber : Option Nat → String
  | some n => "Some(" ++ toString n ++ ")"
  | none => "None"

/-- A truth value in a description. -/
def describeBool (b : Bool) : String := if b then "true" else "false"

/-- The configuration in words, the password hidden. -/
def describe (c : ConnectionConfig) : String :=
  "ConnectionConfig \x7b id: " ++ describeNumber (c.id.map UInt32.toNat) ++
    ", host: " ++ Text.quoted c.host ++
    ", port: " ++ describeNumber (c.port.map UInt16.toNat) ++
    ", database: " ++ Text.quoted c.database ++
    ", user: " ++ Text.quoted c.user ++
    ", password: \"***\"" ++
    ", logging: " ++ describeBool c.logging ++
    ", surface_errors: " ++ describeBool c.surfaceErrors ++
    ", object_results: " ++ describeBool c.objectResults ++
    ", error_handler: " ++ describeBool c.errorHandler ++
    ", log_handler: " ++ describeBool c.logHandler.isSome ++ " \x7d"

end ConnectionConfig

/-- A registered connection; `β` is the type of its link. -/
structure Connection (β : Type) where
  id : ConnectionId
  config : ConnectionConfig
  keys : KeyMap := {}
  log : List String := []
  lastError : Option String := none
  link : Option β := none

/-- What the verb `debug` tells of a connection. -/
structure Snapshot where
  id : ConnectionId
  host : String
  database : String
  logging : Bool
  surfaceErrors : Bool
  objectResults : Bool
  keys : KeyMap
  log : List String
  deriving Repr, DecidableEq

namespace Connection

variable {β : Type}

/-- The handler calls that a log line causes. -/
def lineEvents (c : Connection β) (line : String) : List Event :=
  if c.config.logging && c.config.logHandler.isSome then [.logLine c.id line] else []

/-- Whether a log line is kept. -/
def keepsLine (c : Connection β) (line : String) : Bool :=
  c.config.logging &&
    match c.config.logHandler with
    | some handler => !handler line
    | none => true

/-- Logs a line. -/
def pushLog (c : Connection β) (line : String) : Connection β :=
  if c.keepsLine line then { c with log := c.log ++ [line] } else c

/-- The log line of an error. -/
def errorLine (message : String) : String := "Error: " ++ message

/-- Logs an error and notes it as the last one. -/
def recordError (c : Connection β) (message : String) : Connection β :=
  { c.pushLog (errorLine message) with lastError := some message }

/-- Whether an error was noted. -/
def hasError (c : Connection β) : Bool := c.lastError.isSome

/-- Whether the connection has a link. -/
def isConnected (c : Connection β) : Bool := c.link.isSome

/-- The connection as the verb `debug` tells of it. -/
def snapshot (c : Connection β) : Snapshot :=
  { id := c.id
    host := c.config.host
    database := c.config.database
    logging := c.config.logging
    surfaceErrors := c.config.surfaceErrors
    objectResults := c.config.objectResults
    keys := c.keys
    log := c.log }

end Connection

/-- The key columns as an object. -/
def KeyMap.toJson (m : KeyMap) : Json := .obj (m.entries.map fun (table, key) => (table, .str key))

/-- A snapshot as an object. -/
def Snapshot.toJson (s : Snapshot) : Json :=
  .obj
    [("id", .int s.id.toNat), ("host", .str s.host), ("database", .str s.database),
     ("logging", .bool s.logging), ("surface_errors", .bool s.surfaceErrors),
     ("object_results", .bool s.objectResults), ("keys", s.keys.toJson),
     ("log", .ofStrings s.log)]

end SqlShorthand
