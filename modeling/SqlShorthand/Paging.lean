import SqlShorthand.Record
import SqlShorthand.Text.Search
import SqlShorthand.Error
import SqlShorthand.Statement.Limit

/-!
# Paging — one page of a query

A page is fetched with one row more than it shows: the extra row says that there is a next page, and
is dropped.
-/

namespace SqlShorthand

/-- The largest row number that a LIMIT takes. -/
def maxRow : Nat := 18446744073709551615

/-- Rows per page, the current page, and the labels of its neighbours. -/
structure Paging where
  rpp : Nat := 10
  page : Nat := 1
  nextLabel : Option String := none
  prevLabel : Option String := none
  deriving Repr, DecidableEq

namespace Paging

/-- Sets the rows per page; a number below one is refused. -/
def setRpp (p : Paging) (n : Int64) : Bool × Paging :=
  if n < 1 then (false, p) else (true, { p with rpp := n.toInt.toNat })

/-- Sets the current page; a number below one is refused. -/
def setPage (p : Paging) (n : Int64) : Bool × Paging :=
  if n < 1 then (false, p) else (true, { p with page := n.toInt.toNat })

/-- The label that a value gives: none for null. -/
def labelOf : Value → Option String
  | .null => none
  | v => some v.asText

/-- Takes one setting; unknown names and refused numbers change nothing. -/
def applyField (p : Paging) (name : String) (v : Value) : Paging :=
  if name == "rpp" then
    match v.asInt? with
    | some n => (p.setRpp n).2
    | none => p
  else if name == "page" then
    match v.asInt? with
    | some n => (p.setPage n).2
    | none => p
  else if name == "next_string" then { p with nextLabel := labelOf v }
  else if name == "prev_string" then { p with prevLabel := labelOf v }
  else p

/-- Takes each setting of a record in turn. -/
def apply (p : Paging) (r : Record) : Paging :=
  r.fields.foldl (fun acc (name, v) => acc.applyField name v) p

/-- The part of a result that a query asks for, and what its page needs to know. -/
structure Window where
  offset : Nat
  rpp : Nat
  page : Nat
  nextLabel : Option String
  prevLabel : Option String
  deriving Repr, DecidableEq

/-- The window of the current page. -/
def window (p : Paging) : Window :=
  { offset := min ((p.page - 1) * p.rpp) maxRow
    rpp := p.rpp
    page := p.page
    nextLabel := p.nextLabel
    prevLabel := p.prevLabel }

/-- What stands after LIMIT: the offset, and one row more than the page shows. -/
def Window.limit (w : Window) : String :=
  toString w.offset ++ ", " ++ toString (min (w.rpp + 1) maxRow)

/-- The SQL for the current page, and its window. -/
def prepare (p : Paging) (sql : String) : Except Error (String × Window) :=
  if Statement.hasLimit sql then .error .pagingConflict
  else .ok (Statement.appendLimit sql p.window.limit, p.window)

/-- A page of a result; a neighbour that does not exist has number 0 and no label. -/
structure Page where
  rpp : Nat
  page : Nat
  next : Nat
  prev : Nat
  offset : Nat
  nextLabel : String
  prevLabel : String
  deriving Repr, DecidableEq

/-- A label with the number of its page in place of `mark`. -/
def labelText (template : Option String) (mark : String) (number : Nat) : String :=
  match template with
  | some t => if number > 0 then Text.replace mark (toString number) t else ""
  | none => ""

/-- The rows of a page, and the page. -/
def Window.finalize {α : Type} (w : Window) (rows : List α) : List α × Page :=
  let next := if rows.length > w.rpp then w.page + 1 else 0
  let prev := if w.page > 1 then w.page - 1 else 0
  (rows.take w.rpp,
   { rpp := w.rpp, page := w.page, next, prev, offset := w.offset
     nextLabel := labelText w.nextLabel "\x7b$next\x7d" next
     prevLabel := labelText w.prevLabel "\x7b$prev\x7d" prev })

end Paging

end SqlShorthand
