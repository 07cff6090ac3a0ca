import SqlShorthand.Connection
import SqlShorthand.Settings.Fields

/-!
# Settings/Basic — what a settings file says

The file lists connections, and may set up the cache and the paging.  `parse?` gives what it says,
or nothing if a field is missing or of the wrong kind; whether the values make sense is asked
later.
-/

namespace SqlShorthand

/-- A connection as the file has it. -/
structure ConnectionEntry where
  /-- The id, not yet looked at. -/
  id : Option Toml := none
  host : String
  port : Option UInt16 := none
  database : String
  user : String
  password : String := ""
  logging : Bool := true
  /-- Whether errors go back to the caller. -/
  errors : Bool := true
  objects : Bool := true
  /-- Tables and their key columns, by ascending table name. -/
  keys : List (String × String) := []

/-- The cache as the file has it: in files if there is a path, in memory if not. -/
structure CacheSection where
  path : Option String := none
  expire : Option String := none
  deriving Repr, DecidableEq

/-- The paging as the file has it. -/
structure PagingSection where
  rpp : Option Int64 := none
  page : Option Int64 := none
  nextLabel : Option String := none
  prevLabel : Option String := none
  deriving Repr, DecidableEq

/-- What a settings file says. -/
structure Settings where
  connections : List ConnectionEntry := []
  cache : Option CacheSection := none
  paging : Option PagingSection := none

namespace ConnectionEntry

/-- Reads a connection. -/
def ofToml? (v : Toml) : Option ConnectionEntry := do
  let f ← Settings.Fields.ofToml? v
  return {
    id := ← f.optional Toml.withDates? 0 "id"
    host := ← f.required Settings.text? 1 "host"
    port := ← f.optional Settings.port? 2 "port"
    database := ← f.required Settings.text? 3 "database"
    user := ← f.required Settings.text? 4 "user"
    password := ← f.withDefault Settings.text? "" 5 "password"
    logging := ← f.withDefault Settings.bool? true 6 "logging"
    errors := ← f.withDefault Settings.bool? true 7 "errors"
    objects := ← f.withDefault Settings.bool? true 8 "objects"
    keys := ← f.withDefault Settings.texts? [] 9 "keys" }

/-- The error for a value that is no id. -/
def invalidId (v : Toml) : Error :=
  .settings ("Invalid connection ID '" ++ v.loneText ++ "', must be an integer")

/-- A number as an id. -/
def idOfNat? (n : Nat) : Option ConnectionId :=
  if n < UInt32.size then some (UInt32.ofNat n) else none

/-- A value as an id: a number, or its digits. -/
def idOf? : Toml → Option ConnectionId
  | .int n => if n < 0 then none else idOfNat? n.toInt.toNat
  | .str s => (Decimal.natural? s.toList).bind idOfNat?
  | _ => none

/-- The id that is asked for, if one is. -/
def connectionId (e : ConnectionEntry) : Except Error (Option ConnectionId) :=
  match e.id with
  | none => .ok none
  | some v =>
    match idOf? v with
    | some id => .ok (some id)
    | none => .error (invalidId v)

/-- The configuration of the connection. -/
def toConfig (e : ConnectionEntry) : Except Error ConnectionConfig :=
  e.connectionId.map fun id =>
    { id
      host := e.host
      port := e.port
      database := e.database
      user := e.user
      password := e.password
      logging := e.logging
      surfaceErrors := e.errors
      objectResults := e.objects }

end ConnectionEntry

/-- Reads the cache's section. -/
def CacheSection.ofToml? (v : Toml) : Option CacheSection := do
  let f ← Settings.Fields.ofToml? v
  return {
    path := ← f.optional Settings.text? 0 "path"
    expire := ← f.optional Settings.text? 1 "expire" }

/-- Reads the paging's section. -/
def PagingSection.ofToml? (v : Toml) : Option PagingSection := do
  let f ← Settings.Fields.ofToml? v
  return {
    rpp := ← f.optional Settings.int? 0 "rpp"
    page := ← f.optional Settings.int? 1 "page"
    nextLabel := ← f.optional Settings.text? 2 "next_string"
    prevLabel := ← f.optional Settings.text? 3 "prev_string" }

namespace Settings

/-- Reads the connections. -/
def connections? : Toml → Option (List ConnectionEntry)
  | .arr items => items.mapM ConnectionEntry.ofToml?
  | _ => none

/-- Reads the table of a settings file; entries of other names are left alone. -/
def ofTable? (table : List (String × Toml)) : Option Settings := do
  let f := Fields.named table
  return {
    connections := ← f.withDefault connections? [] 0 "connection"
    cache := ← f.optional CacheSection.ofToml? 1 "cache"
    paging := ← f.optional PagingSection.ofToml? 2 "pagination" }

/-- What the text of a settings file says. -/
def parse? (text : String) : Option Settings := (Toml.parse? text).bind ofTable?

end Settings

end SqlShorthand
