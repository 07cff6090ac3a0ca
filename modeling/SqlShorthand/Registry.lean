import SqlShorthand.Connection

/-!
# Registry — the connections of a session

Connections stand in the order of their ids.  One that asks for no id gets the first free number
after the last that was given so.
-/

namespace SqlShorthand

/-- The registered connections, by ascending id, and the last id that was chosen freely. -/
structure Registry (β : Type) where
  connections : List (Connection β) := []
  lastAuto : ConnectionId := 0

namespace Registry

variable {β : Type}

/-- The connection with an id. -/
def find? (r : Registry β) (id : ConnectionId) : Option (Connection β) :=
  r.connections.find? (·.id == id)

/-- Whether an id is registered. -/
def contains (r : Registry β) (id : ConnectionId) : Bool := (r.find? id).isSome

/-- The connection with an id, or the error that says there is none. -/
def get (r : Registry β) (id : ConnectionId) : Except Error (Connection β) :=
  match r.find? id with
  | some c => .ok c
  | none => .error (.unknownConnection id)

/-- Changes the connection with an id. -/
def modify (r : Registry β) (id : ConnectionId) (f : Connection β → Connection β) : Registry β :=
  { r with connections := r.connections.map fun c => if c.id == id then f c else c }

/-- Puts a connection among ascending ids. -/
def insertSorted (c : Connection β) : List (Connection β) → List (Connection β)
  | [] => [c]
  | d :: rest => if c.id < d.id then c :: d :: rest else d :: insertSorted c rest

/-- The ids, ascending. -/
def ids (r : Registry β) : List ConnectionId := r.connections.map (·.id)

/-- The first id from `id` on that is free, within `tries` steps. -/
def freeFrom (r : Registry β) : Nat → ConnectionId → ConnectionId
  | 0, id => id
  | tries + 1, id => if r.contains id then r.freeFrom tries (id + 1) else id

/-- The id that a connection gets if it asks for none.  Among one more candidates than there are
connections one is free. -/
def nextAuto (r : Registry β) : ConnectionId :=
  r.freeFrom (r.connections.length + 1) (r.lastAuto + 1)

/-- The first line of a connection's log. -/
def registrationLine (id : ConnectionId) (config : ConnectionConfig) : String :=
  "Connection '" ++ toString id.toNat ++ "' registered (host: '" ++ config.host ++
    "', database: '" ++ config.database ++ "')"

/-- The registry with a new connection under a free id, and the handler calls of its first line. -/
def add (r : Registry β) (id : ConnectionId) (config : ConnectionConfig) :
    List Event × Registry β :=
  let fresh : Connection β := { id, config }
  let line := registrationLine id config
  (fresh.lineEvents line, { r with connections := insertSorted (fresh.pushLog line) r.connections })

/-- What an incomplete configuration is told. -/
def incompleteMessage : String :=
  "Invalid connection parameters (required: host, database, user, password)"

/-- Registers a connection: its id, the handler calls, and the registry with it. -/
def register (r : Registry β) (config : ConnectionConfig) :
    Except Error (ConnectionId × List Event × Registry β) :=
  if !config.isComplete then .error (.settings incompleteMessage)
  else
    match config.id with
    | some id =>
      if r.contains id then .error (.duplicateConnection id) else .ok (id, r.add id config)
    | none => .ok (r.nextAuto, { r with lastAuto := r.nextAuto }.add r.nextAuto config)

end Registry

end SqlShorthand
