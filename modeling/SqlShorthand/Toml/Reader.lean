import SqlShorthand.Decimal.Reader
import SqlShorthand.Json.Reader
import SqlShorthand.Toml.Basic

/-!
# Toml/Reader — keys, strings, numbers and dates

Each reader takes the text from where it starts and gives what it read with the text that is left.
-/

namespace SqlShorthand.Toml

/-- What a reader gives: a result and the rest of the text. -/
abbrev Read (α : Type) := Option (α × List Char)

/-- A space or a tab. -/
def isSpace (c : Char) : Bool := c == ' ' || c == '\t'

/-- The text after spaces and tabs. -/
def skipSpaces (s : List Char) : List Char := s.dropWhile isSpace

/-- The text after a line break. -/
def afterNewline? : List Char → Option (List Char)
  | '\n' :: rest => some rest
  | '\r' :: '\n' :: rest => some rest
  | _ => none

/-- A character that may stand in a comment. -/
def isCommentChar (c : Char) : Bool := c == '\t' || (32 ≤ c.toNat && c.toNat != 127)

/-- The text after a comment, if one starts here. -/
def skipComment : List Char → List Char
  | '#' :: rest => rest.dropWhile isCommentChar
  | s => s

/-- The text after what may end a line: spaces, a comment, and a line break or the end. -/
def lineEnd? (s : List Char) : Option (List Char) :=
  match skipComment (skipSpaces s) with
  | [] => some []
  | rest => afterNewline? rest

/-- The text after spaces, comments and line breaks; a comment ends with its line. -/
def skipFiller : Nat → List Char → List Char
  | 0, s => s
  | fuel + 1, s =>
    match skipSpaces s with
    | '#' :: rest =>
      match afterNewline? (rest.dropWhile isCommentChar) with
      | some rest => skipFiller fuel rest
      | none => '#' :: rest
    | rest =>
      match afterNewline? rest with
      | some rest => skipFiller fuel rest
      | none => rest

/-! ## Strings -/

/-- A character that may stand in a string in single quotes. -/
def isLiteralChar (c : Char) : Bool := (isCommentChar c) && c != '\''

/-- A character that may stand unescaped in a string in double quotes. -/
def isBasicChar (c : Char) : Bool := isCommentChar c && c != '"' && c != '\\'

/-- The character that an escape of one letter stands for. -/
def shortEscape? : Char → Option Char
  | 'b' => some (Char.ofNat 8)
  | 't' => some '\t'
  | 'n' => some '\n'
  | 'f' => some (Char.ofNat 12)
  | 'r' => some '\r'
  | '"' => some '"'
  | '\\' => some '\\'
  | _ => none

/-- The character with a code point, if it is one. -/
def ofCodePoint? (n : Nat) : Option Char :=
  if n < 0xD800 || (0xE000 ≤ n && n < 0x110000) then some (Char.ofNat n) else none

/-- The character with a code point of four digits. -/
def unicode4? (a b c d : Char) : Option Char := (Json.hex4? a b c d).bind ofCodePoint?

/-- The character with a code point of eight digits. -/
def unicode8? (a b c d e f g h : Char) : Option Char :=
  match Json.hex4? a b c d, Json.hex4? e f g h with
  | some hi, some lo => ofCodePoint? (hi * 65536 + lo)
  | _, _ => none

/-- Puts a character in front of what was read. -/
def push (c : Option Char) (r : Read (List Char)) : Read (List Char) :=
  match c, r with
  | some c, some (cs, rest) => some (c :: cs, rest)
  | _, _ => none

/-- The rest of a string in double quotes. -/
def basicBody? : List Char → Read (List Char)
  | [] => none
  | '"' :: rest => some ([], rest)
  | '\\' :: 'u' :: a :: b :: c :: d :: rest => push (unicode4? a b c d) (basicBody? rest)
  | '\\' :: 'U' :: a :: b :: c :: d :: e :: f :: g :: h :: rest =>
    push (unicode8? a b c d e f g h) (basicBody? rest)
  | '\\' :: e :: rest => push (shortEscape? e) (basicBody? rest)
  | c :: rest => if isBasicChar c then push (some c) (basicBody? rest) else none

/-- The quotes that belong to the text before closing quotes: of four in a row one does, of five
two. -/
def quotesBefore (q : Char) (rest : List Char) : List Char × List Char :=
  match rest with
  | c :: d :: after =>
    if c == q && d == q then ([q, q], after) else if c == q then ([q], d :: after) else ([], rest)
  | [c] => if c == q then ([q], []) else ([], rest)
  | [] => ([], [])

/-- Whether three quotes in a row start here. -/
def closesHere (q : Char) (c : Char) (rest : List Char) : Bool :=
  c == q && [q, q].isPrefixOf rest

/-- Whether a backslash before this text joins lines. -/
def joinsLines (s : List Char) : Bool := (afterNewline? (skipSpaces s)).isSome

/-- Whether a character is white space between joined lines. -/
def isJoin (c : Char) (rest : List Char) : Bool :=
  isSpace c || c == '\n' || (c == '\r' && rest.head? == some '\n')

/-- The rest of a string in three double quotes; `join` says that white space is being skipped. -/
def multilineBasicBody? (join : Bool) : List Char → Read (List Char)
  | [] => none
  | c :: rest =>
    if join && isJoin c rest then multilineBasicBody? true rest
    else if closesHere '"' c rest then some (quotesBefore '"' (rest.drop 2))
    else if c == '\\' then
      if joinsLines rest then multilineBasicBody? true rest
      else
        match rest with
        | 'u' :: a :: b :: c :: d :: rest =>
          push (unicode4? a b c d) (multilineBasicBody? false rest)
        | 'U' :: a :: b :: c :: d :: e :: f :: g :: h :: rest =>
          push (unicode8? a b c d e f g h) (multilineBasicBody? false rest)
        | e :: rest => push (shortEscape? e) (multilineBasicBody? false rest)
        | [] => none
    else if c == '\r' then
      match rest with
      | '\n' :: rest => push (some '\n') (multilineBasicBody? false rest)
      | _ => none
    else if c == '\n' || c == '"' || isBasicChar c then
      push (some c) (multilineBasicBody? false rest)
    else none

/-- The rest of a string in three single quotes. -/
def multilineLiteralBody? : List Char → Read (List Char)
  | [] => none
  | c :: rest =>
    if closesHere '\'' c rest then some (quotesBefore '\'' (rest.drop 2))
    else if c == '\r' then
      match rest with
      | '\n' :: rest => push (some '\n') (multilineLiteralBody? rest)
      | _ => none
    else if c == '\n' || c == '\'' || isLiteralChar c then
      push (some c) (multilineLiteralBody? rest)
    else none

/-- The rest of a string in single quotes. -/
def literalBody? (s : List Char) : Read (List Char) :=
  match s.dropWhile isLiteralChar with
  | '\'' :: rest => some (s.takeWhile isLiteralChar, rest)
  | _ => none

/-- The text without a line break at its start. -/
def trimNewline (s : List Char) : List Char := (afterNewline? s).getD s

/-- A string of any of the four kinds. -/
def string? : List Char → Read (List Char)
  | '"' :: '"' :: '"' :: rest => multilineBasicBody? false (trimNewline rest)
  | '"' :: rest => basicBody? rest
  | '\'' :: '\'' :: '\'' :: rest => multilineLiteralBody? (trimNewline rest)
  | '\'' :: rest => literalBody? rest
  | _ => none

/-! ## Keys -/

/-- A key without dots. -/
def simpleKey? : List Char → Read String
  | '"' :: rest => (basicBody? rest).map fun (cs, rest) => (.ofList cs, rest)
  | '\'' :: rest => (literalBody? rest).map fun (cs, rest) => (.ofList cs, rest)
  | s =>
    match s.takeWhile isBareChar with
    | [] => none
    | name => some (.ofList name, s.dropWhile isBareChar)

/-- How many parts a dotted key may have, one less than nesting would allow. -/
def maxNesting : Nat := 79

/-- The parts of a dotted key, at most `fuel` of them. -/
def keyParts? : Nat → List Char → Read (List String)
  | 0, _ => none
  | fuel + 1, s =>
    match simpleKey? s with
    | none => none
    | some (name, rest) =>
      match skipSpaces rest with
      | '.' :: rest =>
        (keyParts? fuel (skipSpaces rest)).map fun (names, rest) => (name :: names, rest)
      | rest => some ([name], rest)

/-- A dotted key. -/
def key? (s : List Char) : Read (List String) := keyParts? maxNesting s

/-! ## Numbers -/

/-- Digits, with single underscores between them, after a first one. -/
def moreDigits? (isDigit : Char → Bool) : List Char → Read (List Char)
  | [] => some ([], [])
  | ['_'] => none
  | '_' :: d :: rest => if isDigit d then push (some d) (moreDigits? isDigit rest) else none
  | c :: rest =>
    if isDigit c then push (some c) (moreDigits? isDigit rest) else some ([], c :: rest)

/-- At least one digit, with single underscores between digits. -/
def digits? (isDigit : Char → Bool) : List Char → Read (List Char)
  | c :: rest => if isDigit c then push (some c) (moreDigits? isDigit rest) else none
  | [] => none

/-- A digit in base sixteen. -/
def isHexDigit (c : Char) : Bool := (Json.hexValue? c).isSome

/-- A whole number in another base. -/
def based? (base : Nat) (isDigit : Char → Bool) (s : List Char) : Read Toml :=
  match digits? isDigit s with
  | none => none
  | some (ds, rest) =>
    let n := ds.foldl (fun n c => n * base + (Json.hexValue? c).getD 0) 0
    (Decimal.int64? n).map fun n => (.int n, rest)

/-- The digits of a whole number in base ten: no zero in front of others. -/
def wholeDigits? : List Char → Read (List Char)
  | '0' :: rest => some (['0'], rest)
  | s => digits? Char.isDigit s

/-- An optional sign. -/
def signPart : List Char → List Char × List Char
  | '+' :: rest => (['+'], rest)
  | '-' :: rest => (['-'], rest)
  | s => ([], s)

/-- The exponent of a number, with its mark: nothing if none starts here. -/
def exponentPart? : List Char → Read (List Char)
  | c :: rest =>
    if c == 'e' || c == 'E' then
      let (sign, rest) := signPart rest
      (digits? Char.isDigit rest).map fun (ds, rest) => ('e' :: sign ++ ds, rest)
    else some ([], c :: rest)
  | [] => some ([], [])

/-- The fraction of a number, with its point: nothing if none starts here. -/
def fractionPart? : List Char → Read (List Char)
  | '.' :: rest => (digits? Char.isDigit rest).map fun (ds, rest) => ('.' :: ds, rest)
  | s => some ([], s)

/-- A double that a text denotes; one beyond the largest is refused. -/
def double? (s : List Char) : Option Toml :=
  match Decimal.float? s with
  | some x => if x == 1.0 / 0.0 then none else some (.float x)
  | none => none

/-- A number in base ten: a double if it has a fraction or an exponent, else whole. -/
def decimal? (sign : List Char) (s : List Char) : Read Toml :=
  match wholeDigits? s with
  | none => none
  | some (whole, rest) =>
    match fractionPart? rest with
    | none => none
    | some (fraction, rest) =>
      match exponentPart? rest with
      | none => none
      | some (exponent, rest) =>
        if fraction.isEmpty && exponent.isEmpty then
          (Decimal.signed64? (sign ++ whole)).map fun n => (.int n, rest)
        else (double? (sign ++ whole ++ fraction ++ exponent)).map fun v => (v, rest)

/-- A number of any kind. -/
def number? (s : List Char) : Read Toml :=
  let (sign, body) := signPart s
  let negative := sign == ['-']
  match body with
  | 'i' :: 'n' :: 'f' :: rest =>
    some (.float (if negative then -(1.0 / 0.0) else 1.0 / 0.0), rest)
  | 'n' :: 'a' :: 'n' :: rest => some (.float (0.0 / 0.0), rest)
  | '0' :: 'x' :: rest => if sign.isEmpty then based? 16 isHexDigit rest else none
  | '0' :: 'o' :: rest =>
    if sign.isEmpty then based? 8 (fun c => '0' ≤ c && c ≤ '7') rest else none
  | '0' :: 'b' :: rest =>
    if sign.isEmpty then based? 2 (fun c => c == '0' || c == '1') rest else none
  | _ => decimal? sign body

/-! ## Dates and times -/

/-- A number of two digits, at most `most`. -/
def twoDigits? (least most : Nat) : List Char → Read Nat
  | a :: b :: rest =>
    let n := Decimal.valueFrom 0 [a, b]
    if a.isDigit && b.isDigit && least ≤ n && n ≤ most then some (n, rest) else none
  | _ => none

/-- The days of a month. -/
def daysIn (year month : Nat) : Nat :=
  if month == 2 then
    if (year % 4 == 0 && year % 100 != 0) || year % 400 == 0 then 29 else 28
  else if [4, 6, 9, 11].contains month then 30
  else 31

/-- A date. -/
def date? : List Char → Read Date
  | a :: b :: c :: d :: '-' :: rest =>
    if !([a, b, c, d].all Char.isDigit) then none
    else
      let year := Decimal.valueFrom 0 [a, b, c, d]
      match twoDigits? 1 12 rest with
      | some (month, '-' :: rest) =>
        (twoDigits? 1 (daysIn year month) rest).map fun (day, rest) => (⟨year, month, day⟩, rest)
      | _ => none
  | _ => none

/-- The fraction of a second in billionths; further digits are dropped. -/
def secondFraction? : List Char → Read Nat
  | '.' :: rest =>
    match rest.takeWhile Char.isDigit with
    | [] => none
    | ds =>
      let nine := (ds ++ List.replicate 9 '0').take 9
      some (Decimal.valueFrom 0 nine, rest.dropWhile Char.isDigit)
  | s => some (0, s)

/-- How far the hour of a time and the parts of an offset may go. -/
structure ClockBounds where
  hour : Nat
  offsetHour : Nat
  offsetMinute : Nat

/-- A date and time in a document. -/
def documentBounds : ClockBounds := ⟨23, 23, 59⟩

/-- A date and time given as a string: the day may end at hour 24, and only the whole of an offset
counts. -/
def stringBounds : ClockBounds := ⟨24, 99, 99⟩

/-- The minutes of a day: an offset is never more. -/
def dayMinutes : Nat := 1440

/-- A time of day. -/
def time? (bounds : ClockBounds) (s : List Char) : Read Time :=
  match twoDigits? 0 bounds.hour s with
  | some (hour, ':' :: rest) =>
    match twoDigits? 0 59 rest with
    | some (minute, ':' :: rest) =>
      match twoDigits? 0 60 rest with
      | some (second, rest) =>
        (secondFraction? rest).map fun (nanosecond, rest) =>
          (⟨hour, minute, second, nanosecond⟩, rest)
      | none => none
    | _ => none
  | _ => none

/-- The hours and minutes of an offset, as minutes. -/
def offsetMinutes? (bounds : ClockBounds) (s : List Char) : Read Nat :=
  match twoDigits? 0 bounds.offsetHour s with
  | some (hour, ':' :: rest) =>
    match twoDigits? 0 bounds.offsetMinute rest with
    | some (minute, rest) =>
      let n := hour * 60 + minute
      if n ≤ dayMinutes then some (n, rest) else none
    | none => none
  | _ => none

/-- An offset, if one starts here. -/
def offset? (bounds : ClockBounds) : List Char → Read (Option Offset)
  | 'Z' :: rest | 'z' :: rest => some (some .utc, rest)
  | '+' :: rest =>
    (offsetMinutes? bounds rest).map fun (n, rest) => (some (.minutes n), rest)
  | '-' :: rest =>
    (offsetMinutes? bounds rest).map fun (n, rest) => (some (.minutes (-(n : Int))), rest)
  | s => some (none, s)

/-- A date with the time that may follow it. -/
def afterDate? (bounds : ClockBounds) (d : Date) (rest : List Char) : Read Datetime :=
  match rest with
  | c :: after =>
    if c == 'T' || c == 't' || c == ' ' then
      match time? bounds after with
      | some (t, after) => (offset? bounds after).map fun (o, after) => (.both d t o, after)
      | none => some (.date d, rest)
    else some (.date d, rest)
  | [] => some (.date d, [])

/-- Whether the text starts like a date. -/
def looksLikeDate : List Char → Bool
  | a :: b :: c :: d :: '-' :: _ => [a, b, c, d].all Char.isDigit
  | _ => false

/-- Whether the text starts like a time. -/
def looksLikeTime : List Char → Bool
  | a :: b :: ':' :: _ => a.isDigit && b.isDigit
  | _ => false

/-- A date, a time, or both. -/
def datetime? (bounds : ClockBounds) (s : List Char) : Read Datetime :=
  if looksLikeDate s then
    match date? s with
    | some (d, rest) => afterDate? bounds d rest
    | none => none
  else (time? bounds s).map fun (t, rest) => (.time t, rest)

/-- The date and time that a whole string denotes. -/
def Datetime.ofString? (s : String) : Option Datetime :=
  match datetime? stringBounds s.toList with
  | some (d, []) => some d
  | _ => none

/-- A scalar that starts with a digit or a sign. -/
def numeric? (s : List Char) : Read Toml :=
  if looksLikeDate s || looksLikeTime s then
    (datetime? documentBounds s).map fun (d, rest) => (.datetime d, rest)
  else number? s

end SqlShorthand.Toml
