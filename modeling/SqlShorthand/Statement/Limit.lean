import SqlShorthand.Text.Blank
import SqlShorthand.Text.Upper
import SqlShorthand.Text.Word

/-!
# Statement/Limit — the LIMIT of a query

Detection is by text alone, so a LIMIT inside a literal or a subquery counts too.
-/

namespace SqlShorthand.Statement

/-- Whether the text starts with LIMIT in any case, blanks, and a digit or a comma. -/
def limitHere (s : List Char) : Bool :=
  match Text.afterLetters? ['l', 'i', 'm', 'i', 't'] s with
  | some (c :: rest) =>
    Text.isBlank c &&
      match Text.trimStart rest with
      | d :: _ => Text.isDigit d || d == ','
      | [] => false
  | _ => false

/-- Whether a LIMIT stands at a word boundary of the text; `inWord` says whether a word character
precedes it. -/
def limitFrom (inWord : Bool) : List Char → Bool
  | [] => false
  | c :: cs => (!inWord && limitHere (c :: cs)) || limitFrom (Text.isWord c) cs

/-- Whether the SQL already has a LIMIT. -/
def hasLimit (sql : String) : Bool := limitFrom false sql.toList

/-- The text without blanks around it and without the semicolons at its end. -/
def withoutEnd (s : List Char) : List Char :=
  Text.trimEnd ((Text.trim s).reverse.dropWhile (· == ';')).reverse

/-- The SQL with a LIMIT at its end, in place of semicolons. -/
def appendLimit (sql limit : String) : String :=
  .ofList (withoutEnd sql.toList) ++ " LIMIT " ++ limit

end SqlShorthand.Statement
