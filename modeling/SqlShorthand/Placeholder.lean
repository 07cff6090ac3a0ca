import SqlShorthand.Text.Word
import SqlShorthand.Params

/-!
# Placeholder — named placeholders become positions

`pieces` reads SQL into plain characters and placeholders: a colon, not after another colon, and the
name that follows it, outside quotes.  The reading is a machine that takes one character at a time,
so a piece of SQL means the same wherever the machine is in the same state.  `bind` writes `?` for
each placeholder and collects the values.
-/

namespace SqlShorthand.Placeholder

/-- A character of the SQL, or a placeholder. -/
inductive Piece where
  | char (c : Char)
  | named (name : List Char)
  deriving Repr, DecidableEq

/-- Where the reading stands. -/
inductive State where
  /-- Outside quotes; `afterColon` says whether the last character was a colon. -/
  | outside (afterColon : Bool)
  /-- Inside quotes that `q` ends. -/
  | quoted (q : Char)
  /-- Inside quotes, after a backslash. -/
  | escaped (q : Char)
  /-- Inside a placeholder's name. -/
  | naming
  deriving Repr, DecidableEq

/-- A character that opens quotes. -/
def isQuote (c : Char) : Bool := c == '\'' || c == '"' || c == '\x60'

/-- Whether a colon before this text starts a placeholder. -/
def namesHere : List Char → Bool
  | c :: _ => Text.isNameStart c
  | [] => false

/-- One character outside quotes, with the text that follows it. -/
def stepOutside (afterColon : Bool) (c : Char) (rest : List Char) : List Piece × State :=
  if isQuote c then ([.char c], .quoted c)
  else if c == ':' && !afterColon && namesHere rest then
    ([.named (rest.takeWhile Text.isNameChar)], .naming)
  else ([.char c], .outside (c == ':'))

/-- One character, with the text that follows it. -/
def step : State → Char → List Char → List Piece × State
  | .outside afterColon, c, rest => stepOutside afterColon c rest
  | .quoted q, c, _ =>
    ([.char c], if c == '\\' then .escaped q else if c == q then .outside false else .quoted q)
  | .escaped q, c, _ => ([.char c], .quoted q)
  | .naming, c, rest => if Text.isNameChar c then ([], .naming) else stepOutside false c rest

/-- The pieces of a text, read from a state. -/
def piecesFrom (st : State) : List Char → List Piece
  | [] => []
  | c :: rest => (step st c rest).1 ++ piecesFrom (step st c rest).2 rest

/-- The pieces of a SQL text. -/
def pieces (sql : List Char) : List Piece := piecesFrom (.outside false) sql

/-- The text of pieces with `?` for each placeholder, and the values in order; fails at the first
name without a value. -/
def fill (r : Record) : List Piece → Except Error (List Char × List Value)
  | [] => .ok ([], [])
  | .char c :: rest =>
    match fill r rest with
    | .ok (out, values) => .ok (c :: out, values)
    | .error e => .error e
  | .named name :: rest =>
    match r.get? (.ofList name) with
    | none => .error (.missingParam (.ofList name))
    | some v =>
      match fill r rest with
      | .ok (out, values) => .ok ('?' :: out, v :: values)
      | .error e => .error e

/-- The SQL with positions only, and the values for them.  Raw fragments are refused. -/
def bind (sql : String) (params : Params) : Except Error (String × List Value) :=
  match params.ensureBindable with
  | .error e => .error e
  | .ok () =>
    match params with
    | .none => .ok (sql, [])
    | .positional vs => .ok (sql, vs)
    | .named r =>
      match fill r (pieces sql.toList) with
      | .ok (out, values) => .ok (.ofList out, values)
      | .error e => .error e

end SqlShorthand.Placeholder
