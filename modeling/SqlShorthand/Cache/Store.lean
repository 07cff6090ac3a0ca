import SqlShorthand.Error
import SqlShorthand.Files.Tree
import SqlShorthand.Json.Printer
import SqlShorthand.Json.Reader

/-!
# Cache/Store — where entries are kept

A store is anything that can tell when a key was written, read it, write it, and forget everything.
Each operation also gives the store that remains, so a store may change under any of them.
-/

namespace SqlShorthand

/-- A place that keeps JSON values under keys. -/
class Store (σ : Type) where
  /-- When the key was written, if it is there. -/
  writtenAt : σ → String → Option Int × σ
  /-- The value under a key. -/
  read : σ → String → Except Error Json × σ
  /-- Keeps a value under a key, with the time. -/
  write : σ → String → Json → Int → Except Error Unit × σ
  /-- Forgets every entry. -/
  flush : σ → Except Error Unit × σ

/-! ## In memory -/

/-- Entries as they were written: key, time and value. -/
structure MemoryStore where
  entries : List (String × (Int × Json)) := []

namespace MemoryStore

/-- The entry under a key. -/
def get? (m : MemoryStore) (key : String) : Option (Int × Json) := m.entries.lookup key

/-- Keeps an entry in place of the one under its key. -/
def insert (m : MemoryStore) (key : String) (time : Int) (v : Json) : MemoryStore :=
  ⟨(key, time, v) :: m.entries.filter fun e => e.1 != key⟩

instance : Store MemoryStore where
  writtenAt m key := ((m.get? key).map (·.1), m)
  read m key :=
    match m.get? key with
    | some (_, v) => (.ok v, m)
    | none => (.error (.cacheRead key), m)
  write m key v now := (.ok (), m.insert key now v)
  flush _ := (.ok (), {})

end MemoryStore

/-! ## In files

One file per key in a folder; the file's time of change is the time of writing. -/

/-- How deep a cached value may be nested. -/
def maxCachedDepth : Nat := 127

/-- A folder of a file tree. -/
structure FileStore where
  tree : Files.Tree := {}
  folder : String
  /-- The time that the system gives to folders that it makes. -/
  stamp : Int := 0

namespace FileStore

/-- The components of a key's path. -/
def path (f : FileStore) (key : String) : List String := Files.joined f.folder key

/-- The time of change of a key's file. -/
def writtenAt? (f : FileStore) (key : String) : Option Int :=
  match f.tree.find (f.path key) with
  | .ok n => some n.modified
  | .error _ => none

/-- The value in a key's file. -/
def readValue (f : FileStore) (key : String) : Except Error Json :=
  match f.tree.readText (f.path key) with
  | .error _ => .error (.cacheRead key)
  | .ok text =>
    match Json.parse? maxCachedDepth text with
    | some v => .ok v
    | none => .error (.cacheRead key)

/-- Writes a key's file, making the folder first. -/
def writeValue (f : FileStore) (key : String) (v : Json) (now : Int) :
    Except Error Unit × FileStore :=
  match f.tree.makeFolders f.stamp (Files.components f.folder) with
  | .error fault => (.error (.cacheWrite key fault.message), f)
  | .ok tree =>
    match tree.writeText (f.path key) v.compact now with
    | .error fault => (.error (.cacheWrite key fault.message), { f with tree })
    | .ok tree => (.ok (), { f with tree })

/-- Removes the files of the folder; a folder that is not there has none. -/
def clear (f : FileStore) : Except Error Unit × FileStore :=
  let names := Files.components f.folder
  match f.tree.find names with
  | .error .notFound => (.ok (), f)
  | .error fault => (.error (.files fault), f)
  | .ok (.file _ _) => (.error (.files .notDirectory), f)
  | .ok (.folder _) =>
    match f.tree.walk [] names with
    | .ok p => (.ok (), { f with tree := f.tree.clearFiles p })
    | .error fault => (.error (.files fault), f)

instance : Store FileStore where
  writtenAt f key := (f.writtenAt? key, f)
  read f key := (f.readValue key, f)
  write f key v now := f.writeValue key v now
  flush f := f.clear

end FileStore

/-- Entries in memory or in files, as the settings choose. -/
inductive AnyStore where
  | memory (m : MemoryStore)
  | files (f : FileStore)

instance : Store AnyStore where
  writtenAt
    | .memory m, key => ((Store.writtenAt m key).1, .memory (Store.writtenAt m key).2)
    | .files f, key => ((Store.writtenAt f key).1, .files (Store.writtenAt f key).2)
  read
    | .memory m, key => ((Store.read m key).1, .memory (Store.read m key).2)
    | .files f, key => ((Store.read f key).1, .files (Store.read f key).2)
  write
    | .memory m, key, v, now =>
      ((Store.write m key v now).1, .memory (Store.write m key v now).2)
    | .files f, key, v, now => ((Store.write f key v now).1, .files (Store.write f key v now).2)
  flush
    | .memory m => ((Store.flush m).1, .memory (Store.flush m).2)
    | .files f => ((Store.flush f).1, .files (Store.flush f).2)

end SqlShorthand
