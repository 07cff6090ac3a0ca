import SqlShorthand.Session.Basic

/-!
# Session/Exec — one command in a session

A command is read, narrowed to its row, compiled and run; or it reads and changes the session
itself.  What it gives is decorated at the end.
-/

namespace SqlShorthand

/-- One command with its arguments, and a decorator for its result. -/
structure Call where
  command : String
  args : List Params := []
  decorator : Option Decorator := none

namespace Call

/-- Sets the template. -/
def decorate (c : Call) (template : String) : Call :=
  { c with decorator := some { c.decorator.getD {} with template } }

/-- Adds a filter for the template. -/
def filter (c : Call) (name : String) (f : Json → String) : Call :=
  let d := c.decorator.getD {}
  { c with decorator := some { d with filters := (name, f) :: d.filters } }

end Call

namespace Session

variable {γ β σ : Type} [Gateway γ β]

/-- The command that a text denotes, narrowed to its row as its connection and the gateway ask. -/
def tokenize (s : Session γ β σ) (text : String) : Except Error Command :=
  match Command.parse text with
  | .ok c => .ok (c.scopeRow (s.keysOf c.connection) (Gateway.quote s.gateway))
  | .error e => .error e

/-! ## Reading a result -/

/-- What an outcome gives. -/
def outputOf : Outcome → Output
  | .rows rows => .rows rows
  | .affected n => .affected n
  | .done => .done

/-- Maps the result of a run, where a failure that is held back gives `neutral`. -/
def orElse {α : Type} (neutral : Output) (f : α → Output)
    (r : Except Error (Option α) × Session γ β σ) : Except Error Output × Session γ β σ :=
  match r with
  | (.ok (some a), s) => (.ok (f a), s)
  | (.ok none, s) => (.ok neutral, s)
  | (.error e, s) => (.error e, s)

/-- The rows of an outcome. -/
def rowsOf : Outcome → List Json
  | .rows rows => rows
  | _ => []

/-- The whole number that a JSON value stands for, held to 64 bits. -/
def jsonInt? : Json → Option Int64
  | .int n => some (Int64.ofInt (min n 9223372036854775807))
  | .float x => some x.toInt64
  | .str s => Decimal.signed64? (Text.trim s.toList)
  | .bool b => some (if b then 1 else 0)
  | _ => none

/-- A whole number in the first row, zero if it is not there. -/
def firstInt (name : String) (o : Outcome) : Int64 :=
  (((rowsOf o).head?.bind (·.get? name)).bind jsonInt?).getD 0

/-- The text of a row's first column. -/
def firstColumn? (row : Json) : Option String :=
  let first : Option Json := match row with
    | .obj members => members.head?.map (·.2)
    | .arr items => items.head?
    | _ => none
  first.map fun
    | .str s => s
    | j => j.compact

variable [Store σ]

/-! ## Commands with SQL -/

/-- Runs a statement without looking into the cache. -/
def runUncached (s : Session γ β σ) (id : ConnectionId) (stmt : Statement) :
    Except Error (Option Outcome) × Session γ β σ :=
  s.run id stmt.sql stmt.params stmt.reading false

/-- Runs a statement and gives what it gave. -/
def execute (s : Session γ β σ) (id : ConnectionId) (stmt : Statement) (useCache : Bool) :
    Except Error Output × Session γ β σ :=
  orElse (.bool false) outputOf (s.run id stmt.sql stmt.params stmt.reading useCache)

/-- The SQL for the first row only. -/
def firstRowSql (sql : String) : String :=
  if Statement.hasLimit sql then sql else Statement.appendLimit sql "1"

/-- Runs a statement for its first row. -/
def firstRow (s : Session γ β σ) (id : ConnectionId) (stmt : Statement) (reading : Reading)
    (useCache : Bool) : Except Error Output × Session γ β σ :=
  orElse (.bool false)
    (fun
      | .rows rows => .row rows.head?
      | o => outputOf o)
    (s.run id (firstRowSql stmt.sql) stmt.params reading useCache)

/-- Runs a statement for one page. -/
def page (s : Session γ β σ) (id : ConnectionId) (sql : String) (window : Paging.Window)
    (params : Params) (useCache : Bool) : Except Error Output × Session γ β σ :=
  orElse (.bool false)
    (fun o =>
      let (rows, page) := window.finalize (rowsOf o)
      .paged page rows)
    (s.run id sql params .rows useCache)

/-- The description of the record that a selection stands for. -/
def modelQuery (c : Command) (key : String) (params : Params) : ModelQuery :=
  { connection := c.connection
    table := c.table
    columns := c.columns.names
    key
    clause := (c.scopeToModelKey key).clause
    params }

/-- Runs a selection that is not a page. -/
def selectPlain (s : Session γ β σ) (c : Command) (options : Options) (stmt : Statement) :
    Except Error Output × Session γ β σ :=
  if c.rowId.isSome || options.has .first then
    s.firstRow c.connection stmt .rows (options.has .cache)
  else s.execute c.connection stmt (options.has .cache)

/-- Describes the record of a selection instead of fetching it. -/
def selectModel (s : Session γ β σ) (c : Command) (stmt : Statement) :
    Except Error Output × Session γ β σ :=
  if Statement.hasLimit c.clause then (.error .modelLimit, s)
  else
    match s.registry.get c.connection with
    | .error e => (.error e, s)
    | .ok conn => (.ok (.model (modelQuery c (conn.keys.get c.table) stmt.params)), s)

/-- A selection: shown, described, paged, or run. -/
def select (s : Session γ β σ) (c : Command) (options : Options) (args : List Params) :
    Except Error Output × Session γ β σ :=
  match c.compile options args with
  | .error e => (.error e, s)
  | .ok stmt =>
    if options.has .pagination then
      match s.paging.prepare stmt.sql with
      | .error e => (.error e, s)
      | .ok (sql, window) =>
        if options.has .query then (.ok (.sql sql), s)
        else if options.has .model && c.rowId.isNone then s.selectModel c stmt
        else s.page c.connection sql window stmt.params (options.has .cache)
    else if options.has .query then (.ok (.sql stmt.sql), s)
    else if options.has .model && c.rowId.isNone then s.selectModel c stmt
    else s.selectPlain c options stmt

/-- SQL written by hand: shown, paged, or run. -/
def manualQuery (s : Session γ β σ) (c : Command) (options : Options) (args : List Params) :
    Except Error Output × Session γ β σ :=
  match c.compile options args with
  | .error e => (.error e, s)
  | .ok stmt =>
    if options.has .query then (.ok (.sql stmt.sql), s)
    else if options.has .pagination then
      if !Statement.isSelectSql stmt.sql then (.error .pagingNotSelect, s)
      else
        match s.paging.prepare stmt.sql with
        | .error e => (.error e, s)
        | .ok (sql, window) => s.page c.connection sql window stmt.params (options.has .cache)
    else if options.has .first then s.firstRow c.connection stmt .byKeyword (options.has .cache)
    else s.execute c.connection stmt (options.has .cache)

/-- Switches the log of a connection on or off. -/
def setLogging (s : Session γ β σ) (id : ConnectionId) (on : Bool) : Session γ β σ :=
  { s with
    registry := s.registry.modify id fun c => { c with config := { c.config with logging := on } } }

/-- Runs a statement with the connection's log switched off meanwhile; without the connection
nothing happens. -/
def runUnlogged (s : Session γ β σ) (id : ConnectionId) (stmt : Statement) :
    Except Error Output × Session γ β σ :=
  match s.registry.find? id with
  | none => (.ok .done, s)
  | some c =>
    let (r, after) := orElse .done (fun _ => .done)
      ((s.setLogging id false).runUncached id stmt)
    (r, after.setLogging id c.config.logging)

/-- A verb that compiles to one statement: shown, or run and read as the verb asks. -/
def statement (s : Session γ β σ) (verb : Verb) (c : Command) (options : Options)
    (args : List Params) : Except Error Output × Session γ β σ :=
  match c.compile options args with
  | .error e => (.error e, s)
  | .ok stmt =>
    let id := c.connection
    if options.has .query then (.ok (.sql stmt.sql), s)
    else
      match verb with
      | .logHandler => s.runUnlogged id stmt
      | .count => orElse (.count 0) (fun o => .count (firstInt "count" o)) (s.runUncached id stmt)
      | .exists =>
        orElse (.bool false) (fun o => .bool (firstInt "is_set" o > 0)) (s.runUncached id stmt)
      | .columns | .tables =>
        orElse (.bool false) (fun o => .names ((rowsOf o).filterMap firstColumn?))
          (s.runUncached id stmt)
      | _ => s.execute id stmt false

/-! ## Commands on the session -/

/-- Gets or sets key columns. -/
def keyCommand (s : Session γ β σ) (c : Command) (args : List Params) :
    Except Error Output × Session γ β σ :=
  match s.registry.find? c.connection with
  | none => (.error (.unknownConnection c.connection), s)
  | some conn =>
    let put (keys : KeyMap) : Session γ β σ :=
      { s with registry := s.registry.modify c.connection fun conn => { conn with keys } }
    match args.head?.bind Params.asRecord? with
    | some r =>
      let keys := conn.keys.setAll (r.fields.map fun (table, v) => (table, v.asText))
      (.ok (.keys keys), put keys)
    | none =>
      let keys :=
        if !c.clause.isEmpty && !c.table.isEmpty then conn.keys.set c.table c.clause
        else conn.keys
      (.ok (.key (keys.get c.table)), put keys)

/-- Sets the expiry of the next query. -/
def cacheCommand (s : Session γ β σ) (c : Command) : Except Error Output × Session γ β σ :=
  if c.clause.isEmpty then (.ok .done, s)
  else
    match Expiry.parse c.clause, s.cache with
    | .error e, _ => (.error e, s)
    | .ok _, none => (.error (.settings "No cache configured"), s)
    | .ok e, some cache => (.ok .done, { s with cache := some (cache.setExpire e) })

/-- Gets or sets the paging. -/
def pagingCommand (s : Session γ β σ) (args : List Params) :
    Except Error Output × Session γ β σ :=
  let paging := match args.head?.bind Params.asRecord? with
    | some r => s.paging.apply r
    | none => s.paging
  (.ok (.paging paging), { s with paging })

/-- A step of a transaction: whether it succeeded. -/
def transaction (s : Session γ β σ) (id : ConnectionId) (step : Transaction) :
    Except Error Output × Session γ β σ :=
  orElse (.bool false) (fun _ => .bool true)
    (surface id (s.throughLink id (.transaction id step) fun g link =>
      Gateway.transact g link step))

/-- The id of the last insert. -/
def insertId (s : Session γ β σ) (id : ConnectionId) : Except Error Output × Session γ β σ :=
  orElse (.bool false) .id
    (surface id (s.throughLink id (.lastInsertId id) fun g link => Gateway.lastInsertId g link))

/-- Something that a connection tells of itself. -/
def tell (s : Session γ β σ) (id : ConnectionId) (f : Connection β → Output) :
    Except Error Output × Session γ β σ :=
  match s.registry.get id with
  | .ok c => (.ok (f c), s)
  | .error e => (.error e, s)

/-- A verb without SQL. -/
def control (s : Session γ β σ) (verb : Verb) (c : Command) (args : List Params) :
    Except Error Output × Session γ β σ :=
  let id := c.connection
  match verb with
  | .key => s.keyCommand c args
  | .cache => s.cacheCommand c
  | .pagination => s.pagingCommand args
  | .id => s.insertId id
  | .transaction => s.transaction id .start
  | .commit => s.transaction id .commit
  | .rollback => s.transaction id .rollback
  | .error => s.tell id fun conn => .bool conn.hasError
  | .errorLast => s.tell id fun conn => .lastError conn.lastError
  | .log => s.tell id fun conn => .log conn.log
  | .debug => (.ok (.debug (s.registry.connections.map Connection.snapshot)), s)
  | verb => (.error (.notSql verb.name), s)

/-! ## Every command -/

/-- Runs a command that was read. -/
def runCommand (s : Session γ β σ) (c : Command) (args : List Params) :
    Except Error Output × Session γ β σ :=
  let options := Options.resolve c.options
  match c.verb with
  | none => s.select c options args
  | some .query => s.manualQuery c options args
  | some verb =>
    if verb.producesSql then s.statement verb c options args else s.control verb c args

/-- Runs a call. -/
def exec (s : Session γ β σ) (call : Call) : Except Error Output × Session γ β σ :=
  match s.tokenize call.command with
  | .error e => (.error e, s)
  | .ok c =>
    match s.runCommand c call.args, call.decorator with
    | (.ok o, s), some d => (.ok (o.decorate d c.verb), s)
    | r, _ => r

end Session

end SqlShorthand
