import SqlShorthand.Cache.Basic
import SqlShorthand.Command.Scope
import SqlShorthand.Placeholder
import SqlShorthand.Registry
import SqlShorthand.Session.Gateway
import SqlShorthand.Session.Output
import SqlShorthand.Statement.Basic

/-!
# Session/Basic — the state of a session, and one statement in it

A session holds the connections, the paging settings and the cache, and keeps a trace of what it did
to the outside.  `dispatch` runs one statement: log it, look into the cache, open the link, send it.
`surface` then decides who hears of a failure.
-/

namespace SqlShorthand

/-- The state of a session over a gateway `γ` with links `β`, and a store `σ`. -/
structure Session (γ β σ : Type) where
  gateway : γ
  registry : Registry β := {}
  paging : Paging := {}
  cache : Option (Cache σ) := none
  trace : List Event := []

namespace Session

variable {γ β σ : Type}

/-! ## Connections -/

/-- Registers a connection; it is opened at its first use. -/
def register (s : Session γ β σ) (config : ConnectionConfig) :
    Except Error ConnectionId × Session γ β σ :=
  match s.registry.register config with
  | .ok (id, events, registry) => (.ok id, { s with registry, trace := s.trace ++ events })
  | .error e => (.error e, s)

/-- Sets the key column of a table on a connection. -/
def setKey (s : Session γ β σ) (id : ConnectionId) (table key : String) :
    Except Error Unit × Session γ β σ :=
  if s.registry.contains id then
    (.ok (),
     { s with registry := s.registry.modify id fun c => { c with keys := c.keys.set table key } })
  else (.error (.unknownConnection id), s)

/-- The key columns of a connection; those of one that is not registered are the standard ones. -/
def keysOf (s : Session γ β σ) (id : ConnectionId) : KeyMap :=
  match s.registry.find? id with
  | some c => c.keys
  | none => {}

/-- Logs a line on a connection. -/
def pushLog (s : Session γ β σ) (id : ConnectionId) (line : String) : Session γ β σ :=
  match s.registry.find? id with
  | some c =>
    { s with
      registry := s.registry.modify id fun c => c.pushLog line
      trace := s.trace ++ c.lineEvents line }
  | none => s

/-- The log line of a statement. -/
def queryLine (sql : String) : String := "Query: " ++ sql

/-- The log line of a statement's values. -/
def paramsLine (params : Params) : String := "(Query params: " ++ params.describe ++ ")"

/-- The log line of an answer from the cache. -/
def cacheReadLine (key : String) : String := "(Cache read: " ++ key ++ ")"

/-- The log line of a result put into the cache. -/
def cacheWriteLine (key : String) : String := "(Cache write: " ++ key ++ ")"

/-! ## Failures -/

/-- Notes an error on a connection, and tells the error handler if `notify` says so. -/
def noteError (s : Session γ β σ) (c : Connection β) (message : String) (notify : Bool) :
    Session γ β σ :=
  { s with
    registry := s.registry.modify c.id fun c => c.recordError message
    trace := s.trace ++ c.lineEvents (Connection.errorLine message) ++
      (if notify then [.errorNotice c.id message] else []) }

/-- Notes a recordable failure on its connection.  It goes back to the caller only if the
connection surfaces errors and has no handler for them; else the result is `none`. -/
def surface {α : Type} (id : ConnectionId) (r : Except Error α × Session γ β σ) :
    Except Error (Option α) × Session γ β σ :=
  match r with
  | (.ok a, s) => (.ok (some a), s)
  | (.error e, s) =>
    if !e.recordable then (.error e, s)
    else
      match s.registry.find? id with
      | none => (.error (.unknownConnection id), s)
      | some c =>
        let notify := c.config.surfaceErrors && c.config.errorHandler
        let s := s.noteError c e.message notify
        if c.config.surfaceErrors && !c.config.errorHandler then (.error e, s) else (.ok none, s)

/-! ## Links -/

variable [Gateway γ β]

/-- The link of a connection, opened now if it is not open. -/
def openLink (s : Session γ β σ) (c : Connection β) : Except Error β × Session γ β σ :=
  match c.link with
  | some link => (.ok link, s)
  | none =>
    let (r, gateway) := Gateway.connect s.gateway c.config
    let s := { s with
      gateway, trace := s.trace ++ [.connect c.id c.config.host c.config.database] }
    match r with
    | .ok link =>
      (.ok link,
       { s with registry := s.registry.modify c.id fun c => { c with link := some link } })
    | .error e => (.error e, s)

/-- Speaks once through the link of a connection. -/
def throughLink {α : Type} (s : Session γ β σ) (id : ConnectionId) (event : Event)
    (op : γ → β → Except Error α × β × γ) : Except Error α × Session γ β σ :=
  match s.registry.find? id with
  | none => (.error (.unknownConnection id), s)
  | some c =>
    match s.openLink c with
    | (.error e, s) => (.error e, s)
    | (.ok link, s) =>
      let (r, link, gateway) := op s.gateway link
      (r,
       { s with
         gateway
         registry := s.registry.modify id fun c => { c with link := some link }
         trace := s.trace ++ [event] })

/-! ## One statement -/

/-- What a statement gave. -/
inductive Outcome where
  | rows (rows : List Json)
  | affected (n : Nat)
  | done

variable [Store σ]

/-- Looks a statement up in the cache: the key, and the rows if a fresh entry holds a list. -/
def lookUp (s : Session γ β σ) (id : ConnectionId) (sql : String) (params : Params) :
    Except Error (String × Option (List Json)) × Session γ β σ :=
  match s.cache with
  | none => (.error (.settings "CACHE option used without a configured cache"), s)
  | some cache =>
    let key := cache.keyFor id sql params
    match cache.has key with
    | (false, cache) => (.ok (key, none), { s with cache := some cache })
    | (true, cache) =>
      match cache.read key with
      | (.ok (.arr rows), cache) => (.ok (key, some rows), { s with cache := some cache })
      | (_, cache) => (.ok (key, none), { s with cache := some cache })

/-- Puts rows into the cache under a key. -/
def keep (s : Session γ β σ) (key : String) (rows : List Json) :
    Except Error Unit × Session γ β σ :=
  match s.cache with
  | none => (.ok (), s)
  | some cache =>
    let (r, cache) := cache.write key (.arr rows)
    (r, { s with cache := some cache })

/-- Sends a statement; rows go into the cache under `key` if there is one. -/
def send (s : Session γ β σ) (id : ConnectionId) (sql : String) (params : Params)
    (reading : Reading) (key : Option String) : Except Error Outcome × Session γ β σ :=
  match reading.shape sql with
  | .rows =>
    match s.throughLink id (.fetch id sql params) fun g link =>
        Gateway.fetch g link sql params with
    | (.error e, s) => (.error e, s)
    | (.ok rows, s) =>
      let rows := rows.map Json.obj
      match key with
      | none => (.ok (.rows rows), s)
      | some key =>
        match (s.pushLog id (cacheWriteLine key)).keep key rows with
        | (.ok (), s) => (.ok (.rows rows), s)
        | (.error e, s) => (.error e, s)
  | .affected =>
    match s.throughLink id (.execute id sql params) fun g link =>
        Gateway.execute g link sql params with
    | (.error e, s) => (.error e, s)
    | (.ok n, s) => (.ok (.affected n), s)
  | .done =>
    match s.throughLink id (.execute id sql params) fun g link =>
        Gateway.execute g link sql params with
    | (.error e, s) => (.error e, s)
    | (.ok _, s) => (.ok .done, s)

/-- Answers a statement from the cache if it may and can, else sends it. -/
def answer (s : Session γ β σ) (id : ConnectionId) (sql : String) (params : Params)
    (reading : Reading) (useCache : Bool) : Except Error Outcome × Session γ β σ :=
  if useCache then
    match s.lookUp id sql params with
    | (.error e, s) => (.error e, s)
    | (.ok (key, some rows), s) => (.ok (.rows rows), s.pushLog id (cacheReadLine key))
    | (.ok (key, none), s) => s.send id sql params reading (some key)
  else s.send id sql params reading none

/-- Runs a statement: logs it and its values, refuses raw values, and answers it. -/
def dispatch (s : Session γ β σ) (id : ConnectionId) (sql : String) (params : Params)
    (reading : Reading) (useCache : Bool) : Except Error Outcome × Session γ β σ :=
  if !s.registry.contains id then (.error (.unknownConnection id), s)
  else
    let s := s.pushLog id (queryLine sql)
    if params.isEmpty then s.answer id sql params reading useCache
    else
      match params.ensureBindable with
      | .error e => (.error e, s)
      | .ok () => (s.pushLog id (paramsLine params)).answer id sql params reading useCache

/-- Runs a statement under the connection's policy for failures. -/
def run (s : Session γ β σ) (id : ConnectionId) (sql : String) (params : Params)
    (reading : Reading) (useCache : Bool) : Except Error (Option Outcome) × Session γ β σ :=
  surface id (s.dispatch id sql params reading useCache)

end Session

end SqlShorthand
