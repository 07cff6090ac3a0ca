import SqlShorthand.Text.Blank
import SqlShorthand.Decimal.Layout
import SqlShorthand.Decimal.Reader
import SqlShorthand.Json.Basic

/-!
# Value — what a caller gives for a column or a placeholder

A value is bound, never spliced into SQL — except `raw`, which is SQL and is never bound.
-/

namespace SqlShorthand

/-- A value given by the caller. -/
inductive Value where
  | null
  | bool (b : Bool)
  | int (n : Int64)
  | float (x : Float)
  | text (s : String)
  /-- A trusted SQL fragment, written into the statement as it is. -/
  | raw (sql : String)
  deriving DecidableEq, Inhabited

namespace Value

/-- Whether the value is a SQL fragment. -/
def isRaw : Value → Bool
  | raw _ => true
  | _ => false

/-- The whole number that a value stands for: a text is read, a double loses its fraction and is
held to 64 bits. -/
def asInt? : Value → Option Int64
  | int n => some n
  | float x => some x.toInt64
  | bool b => some (if b then 1 else 0)
  | text s => Decimal.signed64? (Text.trim s.toList)
  | null | raw _ => none

/-- The text that stands for a value in a cache key. -/
def asText : Value → String
  | null => ""
  | bool b => if b then "1" else ""
  | int n => toString n.toInt
  | float x => Decimal.plain.text x
  | text s | raw s => s

/-- The text that stands for a value in the log: as in a key, but null is named. -/
def display : Value → String
  | null => "NULL"
  | v => v.asText

/-- The value as JSON; a fragment is a text. -/
def toJson : Value → Json
  | null => .null
  | bool b => .bool b
  | int n => .int n.toInt
  | float x => .ofFloat x
  | text s | raw s => .str s

end Value

end SqlShorthand
