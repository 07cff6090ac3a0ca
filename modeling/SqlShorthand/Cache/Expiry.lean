import SqlShorthand.Text.Blank
import SqlShorthand.Text.Upper
import SqlShorthand.Decimal.Reader
import SqlShorthand.Error

/-!
# Cache/Expiry — how long an entry stays fresh

Times are whole seconds from 1970 on the proleptic scale, and fit 64 bits with a sign.
-/

namespace SqlShorthand

/-- How long an entry stays fresh: for ever, or for some seconds, fewer than `2^64`. -/
inductive Expiry where
  | never
  | after (seconds : Nat)
  deriving Repr, DecidableEq

namespace Expiry

/-- What holds when nothing is said. -/
def standard : Expiry := .after 30

/-- The units of time, in seconds. -/
def units : List (String × Nat) :=
  [("s", 1), ("sec", 1), ("secs", 1), ("second", 1), ("seconds", 1),
   ("m", 60), ("min", 60), ("mins", 60), ("minute", 60), ("minutes", 60),
   ("h", 3600), ("hour", 3600), ("hours", 3600),
   ("d", 86400), ("day", 86400), ("days", 86400),
   ("w", 604800), ("week", 604800), ("weeks", 604800)]

/-- An amount of a unit, if the seconds fit 64 bits. -/
def ofAmount? (amount : List Char) (unit : String) : Option Expiry :=
  match Decimal.unsigned64? amount, units.lookup (Text.lowerAscii unit) with
  | some n, some seconds => if n * seconds < UInt64.size then some (.after (n * seconds)) else none
  | _, _ => none

/-- `never`, an amount of seconds, or an amount and a unit. -/
def ofText? (text : String) : Option Expiry :=
  if Text.sameIgnoringCase (Text.trimmed text) "never" then some .never
  else
    match Text.words text.toList with
    | [amount] => ofAmount? amount "seconds"
    | [amount, unit] => ofAmount? amount (.ofList unit)
    | _ => none

/-- The expiry that a text denotes. -/
def parse (text : String) : Except Error Expiry :=
  match ofText? text with
  | some e => .ok e
  | none => .error (.invalidExpiry text)

/-- The text of an expiry, which reads back as it. -/
def display : Expiry → String
  | never => "never"
  | after seconds => toString seconds ++ " seconds"

/-- The expiry in a description of the cache. -/
def describe : Expiry → String
  | never => "Never"
  | after seconds => if seconds == 0 then "After(0ns)" else "After(" ++ toString seconds ++ "s)"

/-- Whether an entry written at `written` is fresh at `now`.  A cutoff before all times that can be
told excludes nothing. -/
def fresh (e : Expiry) (now written : Int) : Bool :=
  match e with
  | never => true
  | after age => now - age < -9223372036854775808 || now - age ≤ written

end Expiry

/-- A source of the time. -/
inductive Clock where
  /-- A time that stands still. -/
  | fixed (time : Int)
  /-- A start, and the seconds told since then. -/
  | manual (start : Int) (elapsed : UInt64)
  deriving Repr, DecidableEq

namespace Clock

/-- The time in seconds. -/
def now : Clock → Int
  | fixed time => time
  | manual start elapsed => start + elapsed.toNat

/-- Moves a clock that is told the time. -/
def advance (c : Clock) (seconds : UInt64) : Clock :=
  match c with
  | fixed time => fixed time
  | manual start elapsed => manual start (elapsed + seconds)

end Clock

end SqlShorthand
