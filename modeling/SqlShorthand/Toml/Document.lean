import SqlShorthand.Toml.Reader

/-!
# Toml/Document — a whole TOML text

A text is a list of lines, each an entry or the header of a table.  The lines are then put into one
tree.  A table may be opened by one header only; keys with dots open tables of their own, which
headers may not open again; a table written in braces is closed.
-/

namespace SqlShorthand.Toml

/-- A table under construction. -/
inductive Node where
  | leaf (v : Toml)
  /-- A table; `implicit` if no header opened it, `dotted` if a key with dots did. -/
  | branch (implicit dotted : Bool) (entries : List (String × Node))
  /-- The tables of an array, each opened by a header of its own. -/
  | rows (tables : List (List (String × Node)))

/-- The entries of a table under construction. -/
abbrev Entries := List (String × Node)

mutual

/-- The value that a node stands for. -/
def Node.value : Node → Toml
  | .leaf v => v
  | .branch _ _ entries => .table (entryValues entries)
  | .rows tables => .arr (tableValues tables)

/-- The values of entries. -/
def entryValues : List (String × Node) → List (String × Toml)
  | [] => []
  | (name, n) :: rest => (name, n.value) :: entryValues rest

/-- The values of the tables of an array. -/
def tableValues : List (List (String × Node)) → List Toml
  | [] => []
  | entries :: rest => .table (entryValues entries) :: tableValues rest

end

/-- Puts a node under a name. -/
def setEntry (name : String) (n : Node) : Entries → Entries
  | [] => [(name, n)]
  | (m, old) :: rest => if m == name then (m, n) :: rest else (m, old) :: setEntry name n rest

/-- Changes the table that a path leads to, opening tables on the way.  `f` also learns whether
that table was opened by a key with dots. -/
def descend (byKey : Bool) (f : Bool → Entries → Option Entries) (isDotted : Bool) :
    List String → Entries → Option Entries
  | [], entries => f isDotted entries
  | name :: path, entries =>
    match entries.lookup name with
    | none =>
      (descend byKey f byKey path []).map fun sub => setEntry name (.branch true byKey sub) entries
    | some (.leaf _) => none
    | some (.branch implicit dotted sub) =>
      if byKey && !implicit then none
      else
        (descend byKey f dotted path sub).map fun sub =>
          setEntry name (.branch implicit dotted sub) entries
    | some (.rows tables) =>
      match tables.getLast? with
      | none => none
      | some last =>
        (descend byKey f false path last).map fun sub =>
          setEntry name (.rows (tables.dropLast ++ [sub])) entries

/-- Puts an entry with a dotted key into a table. -/
def putEntry (path : List String) (v : Toml) (entries : Entries) : Option Entries :=
  match path.getLast? with
  | none => none
  | some name =>
    let parents := path.dropLast
    descend true
      (fun isDotted table =>
        if isDotted == parents.isEmpty then none
        else if (table.lookup name).isSome then none
        else some (table ++ [(name, .leaf v)]))
      false parents entries

/-- Opens a table by a header; one that headers below it implied moves to the end. -/
def openTable (path : List String) (entries : Entries) : Option Entries :=
  match path.getLast? with
  | none => none
  | some name =>
    descend false
      (fun _ table =>
        match table.lookup name with
        | none => some (table ++ [(name, .branch false false [])])
        | some (.branch true false sub) =>
          some (table.filter (·.1 != name) ++ [(name, .branch false false sub)])
        | some _ => none)
      false path.dropLast entries

/-- Adds a table to an array by a header. -/
def openRow (path : List String) (entries : Entries) : Option Entries :=
  match path.getLast? with
  | none => none
  | some name =>
    descend false
      (fun _ table =>
        match table.lookup name with
        | none => some (setEntry name (.rows [[]]) table)
        | some (.rows tables) => some (setEntry name (.rows (tables ++ [[]])) table)
        | some _ => none)
      false path.dropLast entries

/-- The table in braces that pairs make. -/
def inlineTable? (pairs : List (List String × Toml)) : Option Toml :=
  let built := pairs.foldl (fun acc (path, v) => acc.bind (putEntry path v)) (some [])
  built.map fun entries => .table (entryValues entries)

/-! ## Values -/

/-- The items of an array after its bracket or a comma. -/
def arrayItems? (value : List Char → Read Toml) : Nat → List Char → Read (List Toml)
  | 0, _ => none
  | fuel + 1, s =>
    match skipFiller s.length s with
    | ']' :: rest => some ([], rest)
    | s =>
      match value s with
      | none => none
      | some (v, rest) =>
        match skipFiller rest.length rest with
        | ']' :: rest => some ([v], rest)
        | ',' :: rest => (arrayItems? value fuel rest).map fun (vs, rest) => (v :: vs, rest)
        | _ => none

/-- A key, an equals sign and a value. -/
def pair? (value : List Char → Read Toml) (s : List Char) : Read (List String × Toml) :=
  match key? s with
  | some (path, '=' :: rest) =>
    (value (skipSpaces rest)).map fun (v, rest) => ((path, v), rest)
  | _ => none

/-- The pairs of a table in braces, after its brace or a comma. -/
def inlinePairs? (value : List Char → Read Toml) :
    Nat → List Char → Read (List (List String × Toml))
  | 0, _ => none
  | fuel + 1, s =>
    match pair? value (skipSpaces s) with
    | none => none
    | some (p, rest) =>
      match skipSpaces rest with
      | '\x7d' :: rest => some ([p], rest)
      | ',' :: rest => (inlinePairs? value fuel rest).map fun (ps, rest) => (p :: ps, rest)
      | _ => none

/-- A value, nested at most `depth` levels. -/
def value? (depth : Nat) (s : List Char) : Read Toml :=
  match depth, s with
  | _, '"' :: _ | _, '\'' :: _ => (string? s).map fun (cs, rest) => (.str (.ofList cs), rest)
  | _, 't' :: 'r' :: 'u' :: 'e' :: rest => some (.bool true, rest)
  | _, 'f' :: 'a' :: 'l' :: 's' :: 'e' :: rest => some (.bool false, rest)
  | depth + 1, '[' :: rest =>
    (arrayItems? (value? depth) (rest.length + 1) rest).map fun (vs, rest) => (.arr vs, rest)
  | depth + 1, '\x7b' :: rest =>
    match skipSpaces rest with
    | '\x7d' :: rest => some (.table [], rest)
    | rest =>
      match inlinePairs? (value? depth) (rest.length + 1) rest with
      | none => none
      | some (pairs, rest) => (inlineTable? pairs).map fun t => (t, rest)
  | _, s => numeric? s

/-! ## Lines -/

/-- One line that says something. -/
inductive Line where
  | entry (path : List String) (v : Toml)
  | table (path : List String)
  | row (path : List String)

/-- The key in a header, up to its closing bracket. -/
def headerKey? (s : List Char) : Read (List String) :=
  match key? (skipSpaces s) with
  | some (path, ']' :: rest) => some (path, rest)
  | _ => none

/-- A line that says something, without its end. -/
def line? (s : List Char) : Read Line :=
  match s with
  | '[' :: '[' :: rest =>
    match headerKey? rest with
    | some (path, ']' :: rest) => some (.row path, rest)
    | _ => none
  | '[' :: rest => (headerKey? rest).map fun (path, rest) => (.table path, rest)
  | s => (pair? (value? maxNesting) s).map fun ((path, v), rest) => (.entry path v, rest)

/-- The lines of a text; `fuel` bounds their number. -/
def lines? : Nat → List Char → Option (List Line)
  | 0, s => if s.isEmpty then some [] else none
  | fuel + 1, s =>
    match skipSpaces s with
    | [] => some []
    | rest =>
      match lineEnd? rest with
      | some rest => lines? fuel rest
      | none =>
        match line? rest with
        | none => none
        | some (l, rest) =>
          match lineEnd? rest with
          | some rest => (lines? fuel rest).map (l :: ·)
          | none => none

/-- The tree so far, and the table that entries go into: its path, if a header opened it. -/
structure Builder where
  root : Entries := []
  path : List String := []

/-- Takes one line in. -/
def Builder.add (b : Builder) : Line → Option Builder
  | .table path => (openTable path b.root).map fun root => ⟨root, path⟩
  | .row path => (openRow path b.root).map fun root => ⟨root, path⟩
  | .entry path v =>
    (descend false (fun _ table => putEntry path v table) false b.path b.root).map fun root =>
      ⟨root, b.path⟩

/-- The text without a byte order mark. -/
def withoutMark : List Char → List Char
  | c :: rest => if c.toNat == 0xFEFF then rest else c :: rest
  | [] => []

/-- The table that a TOML text denotes. -/
def parse? (text : String) : Option (List (String × Toml)) :=
  let s := withoutMark text.toList
  match lines? (s.length + 1) s with
  | none => none
  | some ls =>
    (ls.foldl (fun (acc : Option Builder) l => acc.bind fun b => b.add l) (some {})).map
      fun b => entryValues b.root

end SqlShorthand.Toml
