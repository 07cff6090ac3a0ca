import SqlShorthand.Text.Blank
import SqlShorthand.Text.Search
import SqlShorthand.Text.Word
import SqlShorthand.Decimal.Reader
import SqlShorthand.Json.Printer

/-!
# Template — results written through a pattern

A slot is `{$name}`, `{$name:spec}`, `{$:spec}` or `{$}`.  The name picks a field of the row; the
spec names a filter, or holds the two branches of a test, `yes?:no`.  A slot that cannot be filled
stays as it is.
-/

namespace SqlShorthand

/-! ## What a value says -/

namespace Json

/-- An object or an array. -/
def isRow : Json → Bool
  | .obj _ | .arr _ => true
  | _ => false

/-- The text of a scalar: true is `1`, null and false are nothing. -/
def scalarText : Json → String
  | .null | .bool false => ""
  | .bool true => "1"
  | .str s => s
  | j => j.compact

/-- Whether a value counts as yes: not null, false, zero, an empty text, `0`, or an empty
collection. -/
def isTruthy : Json → Bool
  | .null => false
  | .bool b => b
  | .int n => n != 0
  | .float x => x != 0.0
  | .str s => !(s.isEmpty || s == "0")
  | .arr items => !items.isEmpty
  | .obj members => !members.isEmpty

end Json

namespace Template

/-- A slot: the field's name and the spec, each if given. -/
structure Slot where
  field : Option (List Char)
  spec : Option (List Char)
  deriving Repr, DecidableEq

/-- The slot as it was written. -/
def Slot.source (s : Slot) : List Char :=
  '\x7b' :: '$' :: s.field.getD [] ++
    (match s.spec with
     | some spec => ':' :: spec
     | none => []) ++ ['\x7d']

/-- The spec and the end of a slot, after its name. -/
def slotEnd? (field : Option (List Char)) : List Char → Option Slot
  | '\x7d' :: _ => some ⟨field, none⟩
  | ':' :: rest =>
    match rest.takeWhile (· != '\x7d'), rest.dropWhile (· != '\x7d') with
    | [], _ => none
    | _, [] => none
    | spec, _ => some ⟨field, some spec⟩
  | _ => none

/-- The slot that the text starts with. -/
def slotAt? : List Char → Option Slot
  | '\x7b' :: '$' :: rest =>
    match rest.takeWhile Text.isWord with
    | [] => slotEnd? none rest
    | name => slotEnd? (some name) (rest.dropWhile Text.isWord)
  | _ => none

/-- A character of the template, or a slot. -/
inductive Part where
  | char (c : Char)
  | slot (s : Slot)
  deriving Repr, DecidableEq

/-- The parts of a text, after `skip` characters that belong to a slot. -/
def partsFrom : Nat → List Char → List Part
  | _, [] => []
  | skip + 1, _ :: rest => partsFrom skip rest
  | 0, c :: rest =>
    match slotAt? (c :: rest) with
    | some s => .slot s :: partsFrom (s.source.length - 1) rest
    | none => .char c :: partsFrom 0 rest

/-- The parts of a template, from left to right. -/
def parts (template : String) : List Part := partsFrom 0 template.toList

/-- The template with each slot filled. -/
def fillParts (fill : Slot → List Char) (ps : List Part) : List Char :=
  ps.flatMap fun
    | .char c => [c]
    | .slot s => fill s

/-! ## Filling -/

/-- Filters by name, the newest first. -/
abbrev Filters := List (String × (Json → String))

/-- What stands between the branches of a test. -/
def testMark : List Char := ['?', ':']

/-- The first branch for a value that counts as yes, else the second; a text without branches
stays. -/
def test (v : Json) (template : List Char) : List Char :=
  match Text.splitOnce? testMark template with
  | some (yes, no) => Text.trim (if v.isTruthy then yes else no)
  | none => template

/-- The field of a row: by name in an object, by position in an array. -/
def field? (row : Json) (name : List Char) : Option Json :=
  match row with
  | .obj members => Json.member? members (.ofList name)
  | .arr items => (Decimal.unsigned64? name).bind fun i => items[i]?
  | _ => none

/-- What a filter makes of a value, or the slot as written when no filter has the name. -/
def filtered (filters : Filters) (name : List Char) (v : Json) (s : Slot) : List Char :=
  match filters.lookup (.ofList name) with
  | some f => (f v).toList
  | none => s.source

/-- What a slot becomes for a row. -/
def fillFromRow (filters : Filters) (row : Json) (s : Slot) : List Char :=
  match s.field, s.spec with
  | none, some name => filtered filters name row s
  | none, none => s.source
  | some field, spec =>
    match field? row field with
    | none => s.source
    | some v =>
      if v.isRow then s.source
      else
        match spec with
        | some spec =>
          if Text.occurs testMark spec then test v spec else filtered filters spec v s
        | none => v.scalarText.toList

/-- The text for one row.  A slot `{$:key}` that is left becomes the row's number. -/
def renderRow (template : String) (filters : Filters) (row : Json) (index : Nat) : String :=
  Text.replace "\x7b$:key\x7d" (toString index)
    (.ofList (fillParts (fillFromRow filters row) (parts template)))

/-- The text for a list of rows, or for one row. -/
def renderData (template : String) (filters : Filters) (rows : Json) : String :=
  match rows with
  | .arr items =>
    if items.all Json.isRow then
      String.join (items.zipIdx.map fun (row, i) => renderRow template filters row i)
    else renderRow template filters rows 0
  | .obj _ => renderRow template filters rows 0
  | _ => ""

/-- What a slot becomes for a scalar, whatever field it names. -/
def fillFromScalar (filters : Filters) (v : Json) (s : Slot) : List Char :=
  match s.spec with
  | some name => filtered filters name v s
  | none => v.scalarText.toList

/-- The template with a scalar in it; a row leaves it as it is. -/
def renderScalar (template : String) (filters : Filters) (v : Json) : String :=
  if v.isRow then template else .ofList (fillParts (fillFromScalar filters v) (parts template))

/-- The branch of the template that a value picks. -/
def renderTest (template : String) (v : Json) : String := .ofList (test v template.toList)

/-- Whether the template has two branches. -/
def isTest (template : String) : Bool := Text.occurs testMark template.toList

end Template

/-- A template with its filters. -/
structure Decorator where
  template : String := ""
  filters : Template.Filters := []

end SqlShorthand
