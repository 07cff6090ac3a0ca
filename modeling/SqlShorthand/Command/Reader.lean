import SqlShorthand.Text.Blank
import SqlShorthand.Text.Word
import SqlShorthand.Decimal.Reader
import SqlShorthand.Command.Basic

/-!
# Command/Reader — a command from its text

The parts are read from left to right, each the longest that its rule allows and each optional; what
is left is the clause.  So reading fails in three cases only: brackets that hold no digits, a number
in them that is too large, and a selector word that is no verb.
-/

namespace SqlShorthand.Command

/-- What stands after the columns. -/
inductive Selector where
  | verb (name : List Char)
  | row (digits : List Char)
  deriving Repr, DecidableEq

/-- `[digits]`: the digits and the rest. -/
def connectionPart? : List Char → Option (List Char × List Char)
  | '[' :: s =>
    match s.takeWhile Char.isDigit, s.dropWhile Char.isDigit with
    | [], _ => none
    | digits, ']' :: rest => some (digits, rest)
    | _, _ => none
  | _ => none

/-- Whether a table name may end before this text. -/
def endsTable : List Char → Bool
  | [] => true
  | c :: _ => [':', '.', '/', '(', ' ', '\t', '\r', '\n'].contains c

/-- The table name, empty if none can be read, and the rest. -/
def tablePart (s : List Char) : List Char × List Char :=
  let name := s.takeWhile Text.isNameChar
  let rest := s.dropWhile Text.isNameChar
  if !name.isEmpty && endsTable rest then (name, rest) else ([], s)

/-- A character that may stand between the parentheses of a column list. -/
def isColumnChar (c : Char) : Bool := Text.isNameChar c || c == ',' || Text.isBlank c

/-- The trimmed names between commas, those that are empty left out. -/
def columnNames (s : List Char) : List (List Char) :=
  ((s.splitOn ',').map Text.trim).filter (!·.isEmpty)

/-- The text between parentheses, if it may be a column list, and the rest. -/
def columnsPart? : List Char → Option (List Char × List Char)
  | '(' :: s =>
    match s.takeWhile isColumnChar, s.dropWhile isColumnChar with
    | [], _ => none
    | body, ')' :: rest => some (body, rest)
    | _, _ => none
  | _ => none

/-- The columns that a list names; a list of no names is all of them. -/
def columnsOf (body : List Char) : Columns :=
  match columnNames body with
  | [] => .all
  | names => .named (names.map String.ofList)

/-- `:word` or `.digits`, and the rest. -/
def selectorPart? : List Char → Option (Selector × List Char)
  | ':' :: s =>
    match s.takeWhile Text.isNameChar with
    | [] => none
    | name => some (.verb name, s.dropWhile Text.isNameChar)
  | '.' :: s =>
    match s.takeWhile Char.isDigit with
    | [] => none
    | digits => some (.row digits, s.dropWhile Char.isDigit)
  | _ => none

/-- A character of the option part. -/
def isOptionChar (c : Char) : Bool := Text.isNameChar c || c == '/'

/-- The text after a slash, if it may hold options, and the rest. -/
def optionsPart? : List Char → Option (List Char × List Char)
  | '/' :: s =>
    match s.takeWhile isOptionChar with
    | [] => none
    | body => some (body, s.dropWhile isOptionChar)
  | _ => none

/-- The words between slashes. -/
def optionTokens (body : List Char) : List String :=
  ((body.splitOn '/').filter (!·.isEmpty)).map String.ofList

/-- The connection of a command, and what follows its brackets. -/
def readConnection (s : List Char) : Except Error (ConnectionId × List Char) :=
  match connectionPart? s with
  | some (digits, rest) =>
    let n := Decimal.valueFrom 0 digits
    if n < UInt32.size then .ok (UInt32.ofNat n, rest)
    else .error (.connectionRange (.ofList digits))
  | none => if s.head? == some '[' then .error .connectionSyntax else .ok (defaultConnection, s)

/-- Takes an optional part, or leaves the text as it is. -/
def optionalPart {α : Type} (part : Option (α × List Char)) (s : List Char) :
    Option α × List Char :=
  match part with
  | some (a, rest) => (some a, rest)
  | none => (none, s)

/-- The parts after the connection. -/
def readParts (connection : ConnectionId) (s : List Char) : Except Error Command :=
  let (table, s) := tablePart s
  let (columns, s) := optionalPart (columnsPart? s) s
  let (selector, s) := optionalPart (selectorPart? s) s
  let (options, s) := optionalPart (optionsPart? s) s
  let read : Command :=
    { connection
      table := .ofList table
      columns := (columns.map columnsOf).getD .all
      options := (options.map optionTokens).getD []
      clause := .ofList (Text.trim s) }
  match selector with
  | some (.verb name) =>
    match Verb.ofName (.ofList name) with
    | .ok verb => .ok { read with verb := some verb }
    | .error e => .error e
  | some (.row digits) => .ok { read with rowId := some (.ofList digits) }
  | none => .ok read

/-- The command that a text denotes. -/
def parse (text : String) : Except Error Command :=
  match readConnection (Text.trim text.toList) with
  | .ok (connection, rest) => readParts connection rest
  | .error e => .error e

end SqlShorthand.Command
