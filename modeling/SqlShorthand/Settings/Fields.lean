import SqlShorthand.Toml.Dates
import SqlShorthand.Toml.Document

/-!
# Settings/Fields — the fields of a section

A section is a table of named fields, or a list that has them in their order.  A list may end early
only where the fields that are left have a value of their own to fall back on.
-/

namespace SqlShorthand.Settings

/-- The fields of a section. -/
inductive Fields where
  | named (entries : List (String × Toml))
  | listed (items : List Toml)

namespace Fields

/-- The fields that a value has. -/
def ofToml? : Toml → Option Fields
  | .table entries => some (.named entries)
  | .arr items => some (.listed items)
  | .datetime d => some (.named d.entries)
  | _ => none

/-- The value of a field, by name or by place. -/
def get? (f : Fields) (place : Nat) (name : String) : Option Toml :=
  match f with
  | named entries => Toml.entry? entries name
  | listed items => items[place]?

variable {α : Type}

/-- A field that must be there. -/
def required (f : Fields) (read : Toml → Option α) (place : Nat) (name : String) : Option α :=
  (f.get? place name).bind read

/-- A field with a value to fall back on. -/
def withDefault (f : Fields) (read : Toml → Option α) (fallback : α) (place : Nat)
    (name : String) : Option α :=
  match f.get? place name with
  | some v => read v
  | none => some fallback

/-- A field that a table may leave out; a list may not. -/
def optional (f : Fields) (read : Toml → Option α) (place : Nat) (name : String) :
    Option (Option α) :=
  match f, f.get? place name with
  | _, some v => (read v).map some
  | named _, none => some none
  | listed _, none => none

end Fields

/-! ## Values -/

/-- A text. -/
def text? : Toml → Option String
  | .str s => some s
  | _ => none

/-- A whole number. -/
def int? : Toml → Option Int64
  | .int n => some n
  | _ => none

/-- A truth value. -/
def bool? : Toml → Option Bool
  | .bool b => some b
  | _ => none

/-- The number of a port. -/
def port? (v : Toml) : Option UInt16 :=
  match int? v with
  | some n => if 0 ≤ n && n < 65536 then some (UInt16.ofNat n.toInt.toNat) else none
  | none => none

/-- Named texts. -/
def textEntries? : List (String × Toml) → Option (List (String × String))
  | [] => some []
  | (name, v) :: rest =>
    match text? v, textEntries? rest with
    | some s, some rest => some ((name, s) :: rest)
    | _, _ => none

/-- A table of texts, by ascending names. -/
def texts? (v : Toml) : Option (List (String × String)) :=
  match Fields.ofToml? v with
  | some (.named entries) =>
    (textEntries? entries).map fun texts => texts.mergeSort fun a b => a.1 ≤ b.1
  | _ => none

end SqlShorthand.Settings
