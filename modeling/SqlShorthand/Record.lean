import SqlShorthand.Value

/-!
# Record — named values in the order in which their names first came

Setting a name that is there keeps its place and changes its value, so a record is a map from names
to values together with the order of first insertion.
-/

namespace SqlShorthand

/-- Puts a value under a name: in place if the name is there, else at the end. -/
def insertField (name : String) (v : Value) : List (String × Value) → List (String × Value)
  | [] => [(name, v)]
  | (n, w) :: rest => if n == name then (n, v) :: rest else (n, w) :: insertField name v rest

/-- Named values, in order. -/
structure Record where
  fields : List (String × Value) := []
  deriving DecidableEq, Inhabited

namespace Record

/-- No fields. -/
def empty : Record := {}

/-- Sets a field. -/
def insert (r : Record) (name : String) (v : Value) : Record := ⟨insertField name v r.fields⟩

/-- The value under a name. -/
def get? (r : Record) (name : String) : Option Value := r.fields.lookup name

/-- Sets every field of `other`, in its order. -/
def merge (r other : Record) : Record :=
  other.fields.foldl (fun acc (name, v) => acc.insert name v) r

/-- The record that setting each pair in turn gives. -/
def ofList (pairs : List (String × Value)) : Record := Record.empty.merge ⟨pairs⟩

/-- How many fields there are. -/
def size (r : Record) : Nat := r.fields.length

/-- Whether there are no fields. -/
def isEmpty (r : Record) : Bool := r.fields.isEmpty

/-- The names, in order. -/
def names (r : Record) : List String := r.fields.map (·.1)

/-- The values, in the order of their names. -/
def values (r : Record) : List Value := r.fields.map (·.2)

end Record

end SqlShorthand
