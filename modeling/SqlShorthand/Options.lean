import SqlShorthand.Text.Upper

/-!
# Options — the words after the slashes

A word is one of six flags, in any case, or a SQL keyword that goes into the statement.
-/

namespace SqlShorthand

/-- The options that change how a command is run. -/
inductive Flag where
  /-- Accepted, without effect. -/
  | array
  /-- Answer from the cache if it has a fresh entry. -/
  | cache
  /-- The first row only. -/
  | first
  /-- Describe the record instead of fetching it. -/
  | model
  /-- One page of the result. -/
  | pagination
  /-- Show the SQL instead of running it. -/
  | query
  deriving Repr, DecidableEq

namespace Flag

/-- Every flag, in the order in which flags are listed. -/
def all : List Flag := [array, cache, first, model, pagination, query]

/-- The name of a flag. -/
def name : Flag → String
  | array => "ARRAY"
  | cache => "CACHE"
  | first => "FIRST"
  | model => "MODEL"
  | pagination => "PAGINATION"
  | query => "QUERY"

/-- The flag that a word names, in any ASCII case. -/
def ofToken? (token : String) : Option Flag :=
  all.find? fun f => Text.sameIgnoringCase f.name token

end Flag

/-- Which flags are set. -/
structure Flags where
  array : Bool := false
  cache : Bool := false
  first : Bool := false
  model : Bool := false
  pagination : Bool := false
  query : Bool := false
  deriving Repr, DecidableEq

namespace Flags

/-- Sets a flag. -/
def insert (s : Flags) : Flag → Flags
  | .array => { s with array := true }
  | .cache => { s with cache := true }
  | .first => { s with first := true }
  | .model => { s with model := true }
  | .pagination => { s with pagination := true }
  | .query => { s with query := true }

/-- Whether a flag is set. -/
def contains (s : Flags) : Flag → Bool
  | .array => s.array
  | .cache => s.cache
  | .first => s.first
  | .model => s.model
  | .pagination => s.pagination
  | .query => s.query

/-- The flags that are set, in listing order. -/
def toList (s : Flags) : List Flag := Flag.all.filter s.contains

theorem contains_insert (s : Flags) (f g : Flag) :
    (s.insert f).contains g = (f == g || s.contains g) := by
  cases f <;> cases g <;> rfl

end Flags

/-- The options of one command. -/
structure Options where
  flags : Flags := {}
  /-- SQL keywords in upper case, in the order given. -/
  modifiers : List String := []
  deriving Repr, DecidableEq

namespace Options

/-- Whether a flag is set. -/
def has (o : Options) (f : Flag) : Bool := o.flags.contains f

/-- The keywords as they follow a statement's first word. -/
def modifierSql (o : Options) : String := String.join (o.modifiers.map (" " ++ ·))

/-- Takes one word in. -/
def add (o : Options) (token : String) : Options :=
  if token.isEmpty then o
  else
    match Flag.ofToken? token with
    | some f => { o with flags := o.flags.insert f }
    | none => { o with modifiers := o.modifiers ++ [Text.upper token] }

/-- The options that a list of words gives. -/
def resolve (tokens : List String) : Options := tokens.foldl add {}

end Options

end SqlShorthand
