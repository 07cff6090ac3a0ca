import SqlShorthand.Decimal.Layout

/-!
# Toml/Basic — TOML values and their text

Dates and times are kept as they were checked when read; their text has one form.
-/

namespace SqlShorthand

namespace Toml

/-- A day of the calendar. -/
structure Date where
  year : Nat
  month : Nat
  day : Nat
  deriving Repr, DecidableEq

/-- A time of day; the fraction is in billionths of a second. -/
structure Time where
  hour : Nat
  minute : Nat
  second : Nat
  nanosecond : Nat
  deriving Repr, DecidableEq

/-- The distance from universal time, in minutes if it was not given as universal time itself. -/
inductive Offset where
  | utc
  | minutes (n : Int)
  deriving Repr, DecidableEq

/-- A date, a time, or both, the last with an offset if one was given. -/
inductive Datetime where
  | date (d : Date)
  | time (t : Time)
  | both (d : Date) (t : Time) (offset : Option Offset)
  deriving Repr, DecidableEq

/-- A number with zeros in front, at least `width` digits. -/
def zeroPadded (width n : Nat) : List Char :=
  let digits := Nat.toDigits 10 n
  List.replicate (width - digits.length) '0' ++ digits

/-- Year, month and day. -/
def Date.text (d : Date) : List Char :=
  zeroPadded 4 d.year ++ '-' :: zeroPadded 2 d.month ++ '-' :: zeroPadded 2 d.day

/-- Hour, minute and second, and the fraction without zeros at its end. -/
def Time.text (t : Time) : List Char :=
  zeroPadded 2 t.hour ++ ':' :: zeroPadded 2 t.minute ++ ':' :: zeroPadded 2 t.second ++
    if t.nanosecond == 0 then []
    else '.' :: ((zeroPadded 9 t.nanosecond).reverse.dropWhile (· == '0')).reverse

/-- `Z`, or a sign with hours and minutes — no distance at all has a plus. -/
def Offset.text : Offset → List Char
  | utc => ['Z']
  | minutes n =>
    (if n < 0 then '-' else '+') :: zeroPadded 2 (n.natAbs / 60) ++
      ':' :: zeroPadded 2 (n.natAbs % 60)

/-- The text of a date and time. -/
def Datetime.text : Datetime → String
  | date d => .ofList d.text
  | time t => .ofList t.text
  | both d t offset =>
    .ofList (d.text ++ 'T' :: t.text ++ ((offset.map Offset.text).getD []))

end Toml

/-- A TOML value. -/
inductive Toml where
  | str (s : String)
  | int (n : Int64)
  | float (x : Float)
  | bool (b : Bool)
  | datetime (d : Toml.Datetime)
  | arr (items : List Toml)
  | table (entries : List (String × Toml))
  deriving Inhabited

namespace Toml

/-- The value under a name. -/
def entry? (entries : List (String × Toml)) (name : String) : Option Toml := entries.lookup name

/-! ## Text -/

/-- A control character that must be escaped wherever it stands. -/
def isControl (c : Char) : Bool :=
  (c.toNat < 32 && c != '\t' && c != '\n') || c.toNat == 127

/-- The longest run of a character. -/
def longestRun (q : Char) (run best : Nat) : List Char → Nat
  | [] => max run best
  | c :: cs => if c == q then longestRun q (run + 1) best cs else longestRun q 0 (max run best) cs

/-- One character of a string in double quotes, not a quote itself. -/
def basicChar (multiline : Bool) (c : Char) : List Char :=
  if c.toNat == 8 then ['\\', 'b']
  else if c == '\t' then ['\\', 't']
  else if c == '\n' then (if multiline then ['\n'] else ['\\', 'n'])
  else if c.toNat == 12 then ['\\', 'f']
  else if c == '\r' then ['\\', 'r']
  else if c == '\\' then ['\\', '\\']
  else if isControl c then
    ['\\', 'u', '0', '0', (Nat.digitChar (c.toNat / 16)).toUpper,
     (Nat.digitChar (c.toNat % 16)).toUpper]
  else [c]

/-- The characters of a string in double quotes; `allowed` quotes in a row need no escape, and
`run` of them came just before. -/
def basicChars (multiline : Bool) (allowed run : Nat) : List Char → List Char
  | [] => []
  | c :: cs =>
    if c == '"' then
      if run < allowed then '"' :: basicChars multiline allowed (run + 1) cs
      else '\\' :: '"' :: basicChars multiline allowed 0 cs
    else basicChar multiline c ++ basicChars multiline allowed 0 cs

/-- A string between delimiters; one with line breaks starts on a line of its own. -/
def between (delimiter : List Char) (newline : Bool) (body : List Char) : List Char :=
  delimiter ++ (if newline then ['\n'] else []) ++ body ++ delimiter

/-- The text of a string, in the plainest quotes that need no escapes if there are any. -/
def stringText (s : List Char) : List Char :=
  let control := s.any isControl
  let escape := s.contains '\\'
  let newline := s.contains '\n'
  let doubles := longestRun '"' 0 0 s
  let singles := longestRun '\'' 0 0 s
  let triple (q : Char) : List Char := [q, q, q]
  if !control && !escape && doubles == 0 && !newline then
    between ['"'] false (basicChars false 0 0 s)
  else if !control && singles == 0 && !newline then between ['\''] false s
  else if !control && !escape && doubles ≤ 2 then
    between (triple '"') newline (basicChars true 2 0 s)
  else if !control && singles ≤ 2 then between (triple '\'') newline s
  else if newline then between (triple '"') true (basicChars true 2 0 s)
  else between ['"'] false (basicChars false 0 0 s)

/-- A character of a key that needs no quotes. -/
def isBareChar (c : Char) : Bool := c.isAlphanum || c == '_' || c == '-'

/-- The text of a key. -/
def keyText (s : List Char) : List Char :=
  if !s.isEmpty && s.all isBareChar then s
  else if !s.any isControl && !s.contains '\\' && !s.contains '"' && !s.contains '\n' then
    between ['"'] false (basicChars false 0 0 s)
  else if !s.any isControl && !s.contains '\'' && !s.contains '\n' then between ['\''] false s
  else between ['"'] false (basicChars false 0 0 s)

/-- Doubles in TOML: as elsewhere without exponents, but a whole number keeps a point. -/
def numbers : Decimal.Layout :=
  { Decimal.plain with wholePoint := true, notANumber := "nan" }

mutual

/-- The text of a value on one line. -/
def text : Toml → String
  | .str s => .ofList (stringText s.toList)
  | .int n => toString n.toInt
  | .float x => numbers.text x
  | .bool b => if b then "true" else "false"
  | .datetime d => d.text
  | .arr items => "[" ++ ", ".intercalate (itemTexts items) ++ "]"
  | .table [] => "\x7b\x7d"
  | .table entries =>
    let texts := (entryTexts entries).mergeSort fun a b => a.1 ≤ b.1
    "\x7b " ++ ", ".intercalate (texts.map (·.2)) ++ " \x7d"

/-- The texts of an array's items. -/
def itemTexts : List Toml → List String
  | [] => []
  | v :: vs => text v :: itemTexts vs

/-- The names of a table with the texts of its entries. -/
def entryTexts : List (String × Toml) → List (String × String)
  | [] => []
  | (name, v) :: rest =>
    (name, .ofList (keyText name.toList) ++ " = " ++ text v) :: entryTexts rest

end

end Toml

end SqlShorthand
