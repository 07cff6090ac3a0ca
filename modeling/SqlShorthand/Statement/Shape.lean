import SqlShorthand.Text.Blank
import SqlShorthand.Text.Upper
import SqlShorthand.Text.Word

/-!
# Statement/Shape — how a statement's result is read

Most statements say it themselves.  Of a procedure call or of SQL written by hand, the first word
tells.
-/

namespace SqlShorthand

/-- How the result of a statement is to be read. -/
inductive Reading where
  | rows
  | affected
  /-- As the first word of the SQL tells. -/
  | byKeyword
  deriving Repr, DecidableEq

/-- What a statement gives. -/
inductive Shape where
  | rows
  | affected
  | done
  deriving Repr, DecidableEq

namespace Statement

/-- The words that open a statement with rows. -/
def rowWords : List String := ["select", "show", "describe", "optimize", "pragma", "repair"]

/-- The words that open a statement that counts rows. -/
def affectedWords : List String := ["delete", "insert", "update"]

/-- Whether the text, after blanks, starts with the word in any case and the word ends there. -/
def opensWithWord (s : List Char) (word : String) : Bool :=
  match Text.afterLetters? word.toList (Text.trimStart s) with
  | some rest => !Text.startsInWord rest
  | none => false

/-- Whether the SQL opens with one of the words. -/
def opensWith (words : List String) (sql : String) : Bool :=
  words.any (opensWithWord sql.toList)

/-- Whether the SQL is a SELECT. -/
def isSelectSql (sql : String) : Bool := opensWith ["select"] sql

end Statement

/-- The shape of a statement's result. -/
def Reading.shape (reading : Reading) (sql : String) : Shape :=
  match reading with
  | .rows => .rows
  | .affected => .affected
  | .byKeyword =>
    if Statement.opensWith Statement.rowWords sql then .rows
    else if Statement.opensWith Statement.affectedWords sql then .affected
    else .done

end SqlShorthand
