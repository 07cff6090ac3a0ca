import SqlShorthand.Connection

/-!
# Session/Gateway — the way to the backends

A gateway opens links and speaks through them.  Every call also gives the gateway and the link that
remain, so nothing is assumed of how a backend behaves.
-/

namespace SqlShorthand

/-- A fetched row: its columns in order. -/
abbrev Row := List (String × Json)

/-- Opens links of type `β` and sends statements through them. -/
class Gateway (γ : Type) (β : outParam Type) where
  /-- Opens a link for a configuration. -/
  connect : γ → ConnectionConfig → Except Error β × γ
  /-- Writes a row id into SQL. -/
  quote : γ → String → String
  /-- Runs a statement that gives rows. -/
  fetch : γ → β → String → Params → Except Error (List Row) × β × γ
  /-- Runs a statement and counts the rows it affected. -/
  execute : γ → β → String → Params → Except Error Nat × β × γ
  /-- The id that the last insert made. -/
  lastInsertId : γ → β → Except Error Nat × β × γ
  /-- A step of a transaction. -/
  transact : γ → β → Transaction → Except Error Unit × β × γ

end SqlShorthand
