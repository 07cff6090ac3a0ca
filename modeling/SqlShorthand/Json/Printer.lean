import SqlShorthand.Decimal.Layout
import SqlShorthand.Json.Basic

/-!
# Json/Printer — JSON values as text

`compact` writes no blanks; `pretty` puts each item on a line of its own, indented by two spaces a
level.  Only quotes, backslashes and control characters below the space are escaped.
-/

namespace SqlShorthand.Json

/-- Doubles in JSON: positional from `1e-5` to below `1e16`, and always with a point or an
exponent. -/
def numbers : Decimal.Layout :=
  { positional := fun k => -5 < k && k ≤ 16, wholePoint := true, tieUp := false
    notANumber := "null", infinity := "null" }

/-- One character of a string. -/
def escapedChar (c : Char) : List Char :=
  if c == '"' then ['\\', '"']
  else if c == '\\' then ['\\', '\\']
  else if c.toNat == 8 then ['\\', 'b']
  else if c.toNat == 12 then ['\\', 'f']
  else if c == '\n' then ['\\', 'n']
  else if c == '\r' then ['\\', 'r']
  else if c == '\t' then ['\\', 't']
  else if c.toNat < 32 then
    ['\\', 'u', '0', '0', Nat.digitChar (c.toNat / 16), Nat.digitChar (c.toNat % 16)]
  else [c]

/-- A string in its quotes. -/
def quotedString (s : String) : String := .ofList ('"' :: s.toList.flatMap escapedChar ++ ['"'])

/-- The text of a double. -/
def floatText (x : Float) : String := if x.isFinite then numbers.text x else "null"

mutual

/-- The text without blanks. -/
def compact : Json → String
  | .null => "null"
  | .bool true => "true"
  | .bool false => "false"
  | .int n => toString n
  | .float x => floatText x
  | .str s => quotedString s
  | .arr items => "[" ++ ",".intercalate (compactItems items) ++ "]"
  | .obj members => "\x7b" ++ ",".intercalate (compactMembers members) ++ "\x7d"

/-- The items of an array. -/
def compactItems : List Json → List String
  | [] => []
  | v :: vs => compact v :: compactItems vs

/-- The members of an object. -/
def compactMembers : List (String × Json) → List String
  | [] => []
  | (name, v) :: rest => (quotedString name ++ ":" ++ compact v) :: compactMembers rest

end

/-- A line break and the blanks that open a line at a level. -/
def indent (level : Nat) : String := "\n" ++ String.ofList (List.replicate (2 * level) ' ')

mutual

/-- The text with one item a line, for a value that stands at a level. -/
def prettyAt (level : Nat) : Json → String
  | .arr [] => "[]"
  | .arr items =>
    "[" ++ ",".intercalate (prettyItems (level + 1) items) ++ indent level ++ "]"
  | .obj [] => "\x7b\x7d"
  | .obj members =>
    "\x7b" ++ ",".intercalate (prettyMembers (level + 1) members) ++ indent level ++ "\x7d"
  | .null => "null"
  | .bool true => "true"
  | .bool false => "false"
  | .int n => toString n
  | .float x => floatText x
  | .str s => quotedString s

/-- The items of an array, each on its line. -/
def prettyItems (level : Nat) : List Json → List String
  | [] => []
  | v :: vs => (indent level ++ prettyAt level v) :: prettyItems level vs

/-- The members of an object, each on its line. -/
def prettyMembers (level : Nat) : List (String × Json) → List String
  | [] => []
  | (name, v) :: rest =>
    (indent level ++ quotedString name ++ ": " ++ prettyAt level v) :: prettyMembers level rest

end

/-- The text with one item a line. -/
def pretty (j : Json) : String := prettyAt 0 j

end SqlShorthand.Json
