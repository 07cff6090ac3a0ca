/-!
# Json/Basic — JSON values

A number is a whole number that 64 bits hold, with or without a sign, or a double.  An object keeps
its members in the order in which their names first came, and names each member once.
-/

namespace SqlShorthand

/-- A JSON value. -/
inductive Json where
  | null
  | bool (b : Bool)
  | int (n : Int)
  | float (x : Float)
  | str (s : String)
  | arr (items : List Json)
  | obj (members : List (String × Json))
  deriving Inhabited

namespace Json

/-- A double as a JSON value; what is not finite has no JSON form and becomes null. -/
def ofFloat (x : Float) : Json := if x.isFinite then .float x else .null

/-- Puts a member into an object: in place if the name is there, else at the end. -/
def setMember (members : List (String × Json)) (name : String) (v : Json) :
    List (String × Json) :=
  match members with
  | [] => [(name, v)]
  | (n, w) :: rest => if n == name then (n, v) :: rest else (n, w) :: setMember rest name v

/-- The member of an object with a name. -/
def member? (members : List (String × Json)) (name : String) : Option Json := members.lookup name

/-- The member with a name, if the value is an object that has it. -/
def get? (j : Json) (name : String) : Option Json :=
  match j with
  | .obj members => member? members name
  | _ => none

/-- A list of texts. -/
def ofStrings (ss : List String) : Json := .arr (ss.map .str)

/-- A text, or null. -/
def ofString? : Option String → Json
  | some s => .str s
  | none => .null

end Json

end SqlShorthand
