import SqlShorthand.Files.Fault

/-!
# Files/Tree — folders and files as a value

A tree lists its entries by path from the working folder.  Every operation walks the components of a
path, each inside a folder that exists, and says which rule it broke if it cannot.
-/

namespace SqlShorthand.Files

/-- The names from the working folder to an entry. -/
abbrev Path := List String

/-- A file with its text, or a folder; each with its time of change in seconds. -/
inductive Node where
  | file (text : String) (modified : Int)
  | folder (modified : Int)
  deriving Repr, DecidableEq

/-- The time of change. -/
def Node.modified : Node → Int
  | file _ t => t
  | folder t => t

/-- Whether the entry is a regular file. -/
def Node.isFile : Node → Bool
  | file _ _ => true
  | folder _ => false

/-- The entries below the working folder. -/
structure Tree where
  entries : List (Path × Node) := []
  deriving Repr, DecidableEq, Inhabited

/-- The components of a written path.  The root of an absolute path is a component of its own, so
nothing below the working folder has one. -/
def components (path : String) : List String :=
  match path.toList with
  | '/' :: rest => "/" :: (rest.splitOn '/').map String.ofList
  | cs => (cs.splitOn '/').map String.ofList

/-- The components of `path` as seen from the folder `dir`. -/
def joined (dir path : String) : List String :=
  match components path with
  | "/" :: rest => "/" :: rest
  | names => components dir ++ names

/-- A component that leaves the walk where it is. -/
def staysPut (name : String) : Bool := name == "" || name == "."

/-- The rule that a name breaks by itself. -/
def nameFault? (name : String) : Option Fault :=
  if name.utf8ByteSize > 255 then some .nameTooLong else none

namespace Tree

/-- The entry at a path; the working folder is always there. -/
def node? (t : Tree) (p : Path) : Option Node :=
  match t.entries.lookup p with
  | some n => some n
  | none => if p.isEmpty then some (.folder 0) else none

/-- Puts an entry at a path, in place of the one that is there. -/
def put (t : Tree) (p : Path) (n : Node) : Tree :=
  if t.entries.any (·.1 == p) then
    ⟨t.entries.map fun (q, m) => if q == p then (q, n) else (q, m)⟩
  else ⟨t.entries ++ [(p, n)]⟩

/-- The path that components lead to, through folders that exist. -/
def walk (t : Tree) (here : Path) : List String → Except Fault Path
  | [] => .ok here
  | name :: rest =>
    match t.node? here with
    | none => .error .notFound
    | some (.file _ _) => .error .notDirectory
    | some (.folder _) =>
      if staysPut name then t.walk here rest
      else if name == ".." then t.walk here.dropLast rest
      else
        match nameFault? name with
        | some fault => .error fault
        | none =>
          if (t.node? (here ++ [name])).isSome then t.walk (here ++ [name]) rest
          else .error .notFound

/-- Refuses names with a NUL character, which no path can hold. -/
def checked (names : List String) : Except Fault Unit :=
  if names.any fun name => name.toList.any (·.toNat == 0) then .error .nulInName else .ok ()

/-- The entry that components lead to. -/
def find (t : Tree) (names : List String) : Except Fault Node :=
  match checked names with
  | .error fault => .error fault
  | .ok () =>
    match t.walk [] names with
    | .error fault => .error fault
    | .ok p =>
      match t.node? p with
      | some n => .ok n
      | none => .error .notFound

/-- The text of a file. -/
def readText (t : Tree) (names : List String) : Except Fault String :=
  match t.find names with
  | .ok (.file text _) => .ok text
  | .ok (.folder _) => .error .isDirectory
  | .error fault => .error fault

/-- Makes the folders of a path that are not there yet; a file in the way stops it. -/
def makeFoldersFrom (t : Tree) (stamp : Int) (here : Path) :
    List String → Except Fault Tree
  | [] => .ok t
  | name :: rest =>
    if staysPut name then t.makeFoldersFrom stamp here rest
    else if name == ".." then t.makeFoldersFrom stamp here.dropLast rest
    else
      match nameFault? name with
      | some fault => .error fault
      | none =>
        match t.node? (here ++ [name]) with
        | some (.folder _) => t.makeFoldersFrom stamp (here ++ [name]) rest
        | some (.file _ _) => .error (if rest.all staysPut then .alreadyExists else .notDirectory)
        | none =>
          (t.put (here ++ [name]) (.folder stamp)).makeFoldersFrom stamp (here ++ [name]) rest

/-- Makes the folders that components name. -/
def makeFolders (t : Tree) (stamp : Int) (names : List String) : Except Fault Tree :=
  match checked names with
  | .error fault => .error fault
  | .ok () => t.makeFoldersFrom stamp [] names

/-- Writes the entry `name` of the folder `parent`; `slash` says that a slash followed the name, as
only a folder's name may have. -/
def writeIn (t : Tree) (parent : Path) (name : String) (slash : Bool) (n : Node) :
    Except Fault Tree :=
  match t.node? parent with
  | none => .error .notFound
  | some (.file _ _) => .error .notDirectory
  | some (.folder _) =>
    if slash || staysPut name || name == ".." then .error .isDirectory
    else
      match nameFault? name with
      | some fault => .error fault
      | none =>
        match t.node? (parent ++ [name]) with
        | some (.folder _) => .error .isDirectory
        | _ => .ok (t.put (parent ++ [name]) n)

/-- Writes a file's text, with a time of change. -/
def writeText (t : Tree) (names : List String) (text : String) (stamp : Int) :
    Except Fault Tree :=
  match checked names with
  | .error fault => .error fault
  | .ok () =>
    match names.reverse.dropWhile (· == "") with
    | [] => .error .isDirectory
    | name :: before =>
      match t.walk [] before.reverse with
      | .error fault => .error fault
      | .ok parent =>
        t.writeIn parent name (names.getLast? == some "") (.file text stamp)

/-- Writes a file's text, making the folders on its way first. -/
def addText (t : Tree) (names : List String) (text : String) (stamp : Int) : Except Fault Tree :=
  match t.makeFolders stamp names.dropLast with
  | .error fault => .error fault
  | .ok t => t.writeText names text stamp

/-- The tree without the files that stand directly in a folder. -/
def clearFiles (t : Tree) (p : Path) : Tree :=
  ⟨t.entries.filter fun (q, n) => !(n.isFile && !q.isEmpty && q.dropLast == p)⟩

end Tree

end SqlShorthand.Files
