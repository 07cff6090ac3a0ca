import SqlShorthand.Params

/-!
# Event — what a run did to the outside

In the order in which it happened: calls to handlers, attempts to connect, and statements sent.
-/

namespace SqlShorthand

/-- The steps of a transaction. -/
inductive Transaction where
  | start
  | commit
  | rollback
  deriving Repr, DecidableEq

/-- Something that reached a handler or a backend. -/
inductive Event where
  /-- A log handler got a line. -/
  | logLine (id : ConnectionId) (line : String)
  /-- An error handler got a message. -/
  | errorNotice (id : ConnectionId) (message : String)
  /-- A connection was tried. -/
  | connect (id : ConnectionId) (host database : String)
  | fetch (id : ConnectionId) (sql : String) (params : Params)
  | execute (id : ConnectionId) (sql : String) (params : Params)
  | lastInsertId (id : ConnectionId)
  | transaction (id : ConnectionId) (step : Transaction)
  deriving DecidableEq

end SqlShorthand
