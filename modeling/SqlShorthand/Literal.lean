/-!
# Literal — a scalar written into SQL

A whole number stands bare.  Anything else is quoted, with a backslash before each character that
could end the literal or be misread in it.
-/

namespace SqlShorthand.Literal

/-- An optional minus sign and at least one ASCII digit. -/
def isWhole : List Char → Bool
  | '-' :: digits => !digits.isEmpty && digits.all Char.isDigit
  | digits => !digits.isEmpty && digits.all Char.isDigit

/-- One character between the quotes. -/
def escape (c : Char) : List Char :=
  if c == '\'' then ['\\', '\'']
  else if c == '\\' then ['\\', '\\']
  else if c.toNat == 0 then ['\\', '0']
  else if c == '\n' then ['\\', 'n']
  else if c == '\r' then ['\\', 'r']
  else if c.toNat == 0x1A then ['\\', 'Z']
  else [c]

/-- The characters of a literal. -/
def quoteChars (s : List Char) : List Char :=
  if isWhole s then s else '\'' :: s.flatMap escape ++ ['\'']

/-- A scalar as a SQL literal. -/
def quote (value : String) : String := .ofList (quoteChars value.toList)

end SqlShorthand.Literal
