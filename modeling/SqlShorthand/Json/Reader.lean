import SqlShorthand.Decimal.Reader
import SqlShorthand.Json.Basic

/-!
# Json/Reader — JSON values from text

The reader is strict: ASCII white space only, no comments, no comma before a closing bracket.  It
takes the depth of nesting that it allows, and recurses on it; inside one level it goes through the
text.

A number with a point, an exponent, or too many digits is a double.  It is built from the first
digits that 64 bits hold, times or divided by a power of ten — not always the nearest double.
-/

namespace SqlShorthand.Json

/-- The text after blanks. -/
def skipBlanks (s : List Char) : List Char :=
  s.dropWhile fun c => c == ' ' || c == '\n' || c == '\t' || c == '\r'

/-! ## Strings -/

/-- The value of a digit in base sixteen. -/
def hexValue? (c : Char) : Option Nat :=
  if c.isDigit then some (c.toNat - '0'.toNat)
  else if 'a' ≤ c && c ≤ 'f' then some (c.toNat - 'a'.toNat + 10)
  else if 'A' ≤ c && c ≤ 'F' then some (c.toNat - 'A'.toNat + 10)
  else none

/-- The value of four digits in base sixteen. -/
def hex4? (a b c d : Char) : Option Nat :=
  match hexValue? a, hexValue? b, hexValue? c, hexValue? d with
  | some a, some b, some c, some d => some (((a * 16 + b) * 16 + c) * 16 + d)
  | _, _, _, _ => none

/-- The character that an escape of one letter stands for. -/
def shortEscape? : Char → Option Char
  | '"' => some '"'
  | '\\' => some '\\'
  | '/' => some '/'
  | 'b' => some (Char.ofNat 8)
  | 'f' => some (Char.ofNat 12)
  | 'n' => some '\n'
  | 'r' => some '\r'
  | 't' => some '\t'
  | _ => none

/-- The rest of a string after its opening quote: its characters, and what follows the closing
quote.  A code unit that starts a surrogate pair must be followed by one that ends it. -/
def stringBody? : List Char → Option (List Char × List Char)
  | [] => none
  | '"' :: rest => some ([], rest)
  | '\\' :: 'u' :: a :: b :: c :: d :: rest =>
    match hex4? a b c d with
    | none => none
    | some n =>
      if 0xDC00 ≤ n && n < 0xE000 then none
      else if 0xD800 ≤ n && n < 0xDC00 then
        match rest with
        | '\\' :: 'u' :: a :: b :: c :: d :: rest =>
          match hex4? a b c d with
          | none => none
          | some m =>
            if 0xDC00 ≤ m && m < 0xE000 then
              let point := 0x10000 + (n - 0xD800) * 0x400 + (m - 0xDC00)
              (stringBody? rest).map fun (cs, after) => (Char.ofNat point :: cs, after)
            else none
        | _ => none
      else (stringBody? rest).map fun (cs, after) => (Char.ofNat n :: cs, after)
  | '\\' :: e :: rest =>
    match shortEscape? e with
    | some c => (stringBody? rest).map fun (cs, after) => (c :: cs, after)
    | none => none
  | c :: rest =>
    if c.toNat < 32 || c == '\\' then none
    else (stringBody? rest).map fun (cs, after) => (c :: cs, after)

/-! ## Numbers -/

/-- Digits taken into a significand of 64 bits: the significand, how many digits were taken, and
the digits that no longer fit. -/
def significand (n : Nat) (taken : Nat) : List Char → Nat × Nat × List Char
  | [] => (n, taken, [])
  | d :: ds =>
    let next := n * 10 + Decimal.digitValue d
    if next < UInt64.size then significand next (taken + 1) ds else (n, taken, d :: ds)

/-- Ten to the power of `e`. -/
def powerOfTen (e : Nat) : Float := Float.ofScientific 1 false e

/-- `x · 10^e`, by one multiplication, or by a division for each 308 of the exponent; `none` on
overflow.  A significand of 64 bits is zero after two divisions, so four steps are enough. -/
def scaled? : Nat → Float → Int → Option Float
  | 0, _, _ => none
  | fuel + 1, x, e =>
    if e.natAbs ≤ 308 then
      if e ≥ 0 then
        let y := x * powerOfTen e.natAbs
        if y.isInf then none else some y
      else some (x / powerOfTen e.natAbs)
    else if x == 0.0 then some x
    else if e ≥ 0 then none
    else scaled? fuel (x / powerOfTen 308) (e + 308)

/-- The exponent's digits as a number of 32 bits with a sign; `none` when it does not fit. -/
def exponent32? (digits : List Char) : Option Nat :=
  let n := Decimal.valueFrom 0 digits
  if n < 2147483648 then some n else none

/-- A number within the range of an exponent of 32 bits. -/
def clamp32 (n : Int) : Int := max (-2147483648) (min 2147483647 n)

/-- A double from its sign, significand and exponent. -/
def float? (negative : Bool) (digits : Nat) (e : Int) : Option Json :=
  (scaled? 4 (Float.ofNat digits) e).map fun x => .float (if negative then -x else x)

/-- The exponent after `e`: its value, or `none` in the first place when a number that is not zero
overflows; and the rest. -/
def exponentPart? (digits : Nat) (shift : Int) (s : List Char) :
    Option ((Option Int) × List Char) :=
  let (negative, body) := Decimal.splitSign s
  let ds := body.takeWhile Char.isDigit
  let rest := body.dropWhile Char.isDigit
  if ds.isEmpty then none
  else
    match exponent32? ds with
    | some n => some (some (clamp32 (shift + if negative then -(n : Int) else n)), rest)
    | none => if digits != 0 && !negative then none else some (none, rest)

/-- The number after an optional minus sign. -/
def number? (negative : Bool) (s : List Char) : Option (Json × List Char) :=
  let whole := s.takeWhile Char.isDigit
  let rest := s.dropWhile Char.isDigit
  if whole.isEmpty || (whole.length > 1 && whole.head? == some '0') then none
  else
    let (n, _, dropped) := significand 0 0 whole
    let point := match rest with
      | '.' :: more => some (more.takeWhile Char.isDigit, more.dropWhile Char.isDigit)
      | _ => none
    match point with
    | some ([], _) => none
    | _ =>
      let fraction := (point.map (·.1)).getD []
      let rest := (point.map (·.2)).getD rest
      let (n, taken, _) := significand n 0 fraction
      let shift : Int := (dropped.length : Int) - taken
      match rest with
      | c :: more =>
        if c == 'e' || c == 'E' then
          match exponentPart? n shift more with
          | none => none
          | some (some e, rest) => (float? negative n e).map (·, rest)
          | some (none, rest) => some (.float (if negative then -0.0 else 0.0), rest)
        else if point.isSome || !dropped.isEmpty then (float? negative n shift).map (·, rest)
        else integer? negative n rest
      | [] =>
        if point.isSome || !dropped.isEmpty then (float? negative n shift).map (·, rest)
        else integer? negative n rest
where
  /-- A number written with digits only: whole when 64 bits hold it, else a double. -/
  integer? (negative : Bool) (n : Nat) (rest : List Char) : Option (Json × List Char) :=
    if !negative then some (.int n, rest)
    else if n == 0 || n > 9223372036854775808 then some (.float (-(Float.ofNat n)), rest)
    else some (.int (-n), rest)

/-! ## Values -/

/-- The items of an array after its opening bracket, through `item`; `fuel` bounds their
number. -/
def items? (item : List Char → Option (Json × List Char)) :
    Nat → List Char → Option (List Json × List Char)
  | 0, _ => none
  | fuel + 1, s =>
    match item s with
    | none => none
    | some (v, rest) =>
      match skipBlanks rest with
      | ']' :: rest => some ([v], rest)
      | ',' :: rest => (items? item fuel rest).map fun (vs, after) => (v :: vs, after)
      | _ => none

/-- The members of an object after its opening brace, added to those read before. -/
def members? (item : List Char → Option (Json × List Char)) (before : List (String × Json)) :
    Nat → List Char → Option (List (String × Json) × List Char)
  | 0, _ => none
  | fuel + 1, s =>
    match skipBlanks s with
    | '"' :: rest =>
      match stringBody? rest with
      | none => none
      | some (name, rest) =>
        match skipBlanks rest with
        | ':' :: rest =>
          match item rest with
          | none => none
          | some (v, rest) =>
            let now := setMember before (.ofList name) v
            match skipBlanks rest with
            | '\x7d' :: rest => some (now, rest)
            | ',' :: rest => members? item now fuel rest
            | _ => none
        | _ => none
    | _ => none

/-- A value at the head of the text, nested at most `depth` levels, and what follows it. -/
def value? (depth : Nat) (s : List Char) : Option (Json × List Char) :=
  match depth, skipBlanks s with
  | _, 'n' :: 'u' :: 'l' :: 'l' :: rest => some (.null, rest)
  | _, 't' :: 'r' :: 'u' :: 'e' :: rest => some (.bool true, rest)
  | _, 'f' :: 'a' :: 'l' :: 's' :: 'e' :: rest => some (.bool false, rest)
  | _, '"' :: rest => (stringBody? rest).map fun (cs, after) => (.str (.ofList cs), after)
  | depth + 1, '[' :: rest =>
    match skipBlanks rest with
    | ']' :: rest => some (.arr [], rest)
    | rest => (items? (value? depth) rest.length rest).map fun (vs, after) => (.arr vs, after)
  | depth + 1, '\x7b' :: rest =>
    match skipBlanks rest with
    | '\x7d' :: rest => some (.obj [], rest)
    | rest => (members? (value? depth) [] rest.length rest).map fun (ms, after) => (.obj ms, after)
  | _, '-' :: rest => number? true rest
  | _, rest => number? false rest

/-- The value that a whole text denotes, nested at most `depth` levels. -/
def parse? (depth : Nat) (s : String) : Option Json :=
  match value? depth s.toList with
  | some (v, rest) => if (skipBlanks rest).isEmpty then some v else none
  | none => none

end SqlShorthand.Json
