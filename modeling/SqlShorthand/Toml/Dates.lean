import SqlShorthand.Toml.Reader

/-!
# Toml/Dates — dates as tables of one field

Where only tables can stand, a date is a table: its one field has a name of its own, `dateField`,
and holds the date's text.  `withDates?` goes from such tables to dates, at any depth, and
`loneText` goes the other way for a date that stands by itself.
-/

namespace SqlShorthand.Toml

/-- The name of the field that holds the text of a date. -/
def dateField : String := "$__toml_private_datetime"

/-- The field of a date. -/
def Datetime.entries (d : Datetime) : List (String × Toml) := [(dateField, .str d.text)]

/-- The text of a value that stands by itself: a date is written as a table. -/
def loneText : Toml → String
  | .datetime d => text (.table d.entries)
  | v => v.text

/-- What the field of a date holds, if a table starts with it; the fields after it do not count. -/
def dateEntry? : List (String × Toml) → Option Toml
  | (name, v) :: _ => if name == dateField then some v else none
  | [] => none

/-- The date that a field holds. -/
def dateOf? : Toml → Option Datetime
  | .str s => Datetime.ofString? s
  | _ => none

mutual

/-- The value with dates for the tables that stand for them; nothing if the field of one holds no
date. -/
def withDates? : Toml → Option Toml
  | .arr items => (itemsWithDates? items).map .arr
  | .table entries =>
    match dateEntry? entries with
    | some v => (dateOf? v).map .datetime
    | none => (entriesWithDates? entries).map .table
  | v => some v

/-- The items of an array, each with its dates. -/
def itemsWithDates? : List Toml → Option (List Toml)
  | [] => some []
  | v :: vs =>
    match withDates? v, itemsWithDates? vs with
    | some v, some vs => some (v :: vs)
    | _, _ => none

/-- The entries of a table, each with its dates. -/
def entriesWithDates? : List (String × Toml) → Option (List (String × Toml))
  | [] => some []
  | (name, v) :: rest =>
    match withDates? v, entriesWithDates? rest with
    | some v, some rest => some ((name, v) :: rest)
    | _, _ => none

end

end SqlShorthand.Toml
