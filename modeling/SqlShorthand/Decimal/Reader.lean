import SqlShorthand.Decimal.Shortest

/-!
# Decimal/Reader — numbers from text

Whole numbers within a range, and decimals rounded to the nearest double.
-/

namespace SqlShorthand.Decimal

/-- The value of a digit character. -/
def digitValue (c : Char) : Nat := c.toNat - '0'.toNat

/-- The value of a run of digits, after `n`. -/
def valueFrom (n : Nat) (ds : List Char) : Nat := ds.foldl (fun n c => n * 10 + digitValue c) n

/-- The number that a non-empty run of ASCII digits denotes. -/
def natural? (ds : List Char) : Option Nat :=
  if !ds.isEmpty && ds.all Char.isDigit then some (valueFrom 0 ds) else none

/-- A natural number below `2^64`, with an optional plus sign. -/
def unsigned64? (s : List Char) : Option Nat :=
  let digits := match s with
    | '+' :: rest => rest
    | _ => s
  (natural? digits).filter (· < UInt64.size)

/-- A whole number as one of 64 bits, if it is in their range. -/
def int64? (n : Int) : Option Int64 :=
  if -9223372036854775808 ≤ n && n < 9223372036854775808 then some (Int64.ofInt n) else none

/-- A whole number of 64 bits, the sign optional. -/
def signed64? (s : List Char) : Option Int64 :=
  let value : Option Int := match s with
    | '-' :: rest => (natural? rest).map fun n => -(n : Int)
    | '+' :: rest => (natural? rest).map Int.ofNat
    | _ => (natural? s).map Int.ofNat
  value.bind int64?

/-- The double nearest to `digits · 10^exponent`.  Numbers far outside the range are settled by
their size alone. -/
def nearest (digits : Nat) (exponent : Int) : Float :=
  let size := (width digits : Int) + exponent
  if digits == 0 || size < -330 then 0.0
  else if size > 310 then 1.0 / 0.0
  else Float.ofScientific digits (exponent < 0) exponent.natAbs

/-- The sign of a number, and what follows it. -/
def splitSign : List Char → Bool × List Char
  | '-' :: rest => (true, rest)
  | '+' :: rest => (false, rest)
  | s => (false, s)

/-- The exponent that follows the digits: nothing, or `e` with an optional sign and digits. -/
def exponentPart? : List Char → Option Int
  | [] => some 0
  | c :: rest =>
    if c == 'e' || c == 'E' then
      let (negative, digits) := splitSign rest
      (natural? digits).map fun n => if negative then -(n : Int) else n
    else none

/-- A double from digits with an optional point and exponent, or from the words for infinity and
not-a-number in any case.  At least one digit stands before or after the point. -/
def float? (s : List Char) : Option Float :=
  let (negative, body) := splitSign s
  let signed (x : Float) : Float := if negative then -x else x
  let letters := String.ofList (body.map Char.toLower)
  if letters == "inf" || letters == "infinity" then some (signed (1.0 / 0.0))
  else if letters == "nan" then some (signed (0.0 / 0.0))
  else
    let whole := body.takeWhile Char.isDigit
    let rest := body.dropWhile Char.isDigit
    let (fraction, rest) := match rest with
      | '.' :: more => (more.takeWhile Char.isDigit, more.dropWhile Char.isDigit)
      | _ => ([], rest)
    if whole.isEmpty && fraction.isEmpty then none
    else
      (exponentPart? rest).map fun e =>
        signed (nearest (valueFrom 0 (whole ++ fraction)) (e - fraction.length))

end SqlShorthand.Decimal
