import SqlShorthand.Proofs.Cache.Runs

/-!
# Proofs/Cache/Refinement — files answer as memory does

Two stores are alike under a relation if every operation gives the same answer on both and leaves
them related (`Alike`).  Caches over them then reply the same, action by action (`Alike.perform`)
and over every run (`Alike.performAll`): a cache does nothing with its store but ask it.

A file store is related to a store in memory in two phases (`Matches`).  Its folder is not there
until the first write, and then nothing was written.  Once it is there, each of its files is the
entry under the file's name, with the value as its text and the time of writing as its time of
change, and nothing else stands in it (`Holds`).
-/

namespace SqlShorthand

namespace Json

mutual

/-- How many levels of arrays and objects a value is nested. -/
def depth : Json → Nat
  | .arr items => itemsDepth items + 1
  | .obj members => membersDepth members + 1
  | .null | .bool _ | .int _ | .float _ | .str _ => 0

/-- The depth of the deepest item. -/
def itemsDepth : List Json → Nat
  | [] => 0
  | v :: vs => max v.depth (itemsDepth vs)

/-- The depth of the deepest member. -/
def membersDepth : List (String × Json) → Nat
  | [] => 0
  | (_, v) :: rest => max v.depth (membersDepth rest)

end

/-- A value that is read from its own text. -/
def ReadsBack (v : Json) : Prop := parse? maxCachedDepth v.compact = some v

end Json

namespace Cache

variable {σ τ : Type}

/-! ## Stores that are alike -/

/-- The same clock and settings over another store. -/
def withStore (c : Cache σ) (store : τ) : Cache τ where
  store := store
  clock := c.clock
  expireGlobal := c.expireGlobal
  expire := c.expire
  key := c.key
  label := c.label

/-- **Stores that are alike** as far as some actions ask them: they answer the same and stay
related. -/
structure Alike [Store σ] [Store τ] (R : σ → τ → Prop) (asked : Action → Prop) : Prop where
  has : ∀ {s t key}, R s t → asked (.has key) →
    (Store.writtenAt s key).1 = (Store.writtenAt t key).1 ∧
      R (Store.writtenAt s key).2 (Store.writtenAt t key).2
  read : ∀ {s t key}, R s t → asked (.read key) →
    (Store.read s key).1 = (Store.read t key).1 ∧ R (Store.read s key).2 (Store.read t key).2
  write : ∀ {s t key v} now, R s t → asked (.write key v) →
    (Store.write s key v now).1 = (Store.write t key v now).1 ∧
      R (Store.write s key v now).2 (Store.write t key v now).2
  flush : ∀ {s t}, R s t →
    (Store.flush s).1 = (Store.flush t).1 ∧ R (Store.flush s).2 (Store.flush t).2

/-- Two caches that differ in their stores only, and these are related. -/
def Related (R : σ → τ → Prop) (c : Cache σ) (d : Cache τ) : Prop :=
  R c.store d.store ∧ d = c.withStore d.store

section Alike

variable [Store σ] [Store τ] {R : σ → τ → Prop} {asked : Action → Prop} {c : Cache σ} {d : Cache τ}

/-- **An action gets the same reply over stores that are alike.** -/
theorem Alike.perform (h : Alike R asked) {action : Action} (hasked : asked action)
    (hrelated : Related R c d) :
    (c.perform action).1 = (d.perform action).1 ∧
      Related R (c.perform action).2 (d.perform action).2 := by
  obtain ⟨hR, hd⟩ := hrelated
  rw [hd]
  generalize d.store = t at hR
  cases action with
  | write key v =>
    obtain ⟨hreply, hR⟩ := h.write c.clock.now hR hasked
    exact ⟨congrArg Reply.ofUnit hreply, hR, rfl⟩
  | has key =>
    obtain ⟨hreply, hR⟩ := h.has hR hasked
    refine ⟨?_, hR, rfl⟩
    simp only [Cache.perform, Cache.has, withStore, hreply]
  | read key =>
    obtain ⟨hreply, hR⟩ := h.read hR hasked
    exact ⟨congrArg Reply.ofValue hreply, hR, rfl⟩
  | flush =>
    obtain ⟨hreply, hR⟩ := h.flush hR
    exact ⟨congrArg Reply.ofUnit hreply, hR, rfl⟩
  | setKey key =>
    rw [Cache.perform, Cache.perform, setKey_eq, setKey_eq]
    by_cases hkey : IsKey key
    · rw [if_pos hkey, if_pos hkey]
      exact ⟨rfl, hR, rfl⟩
    · rw [if_neg hkey, if_neg hkey]
      exact ⟨rfl, hR, rfl⟩
  | setLabel | setExpire | setExpireGlobal | advance => exact ⟨rfl, hR, rfl⟩

/-- **A run gets the same replies over stores that are alike.** -/
theorem Alike.performAll (h : Alike R asked) {actions : List Action}
    (hasked : ∀ action ∈ actions, asked action) (hrelated : Related R c d) :
    (c.performAll actions).1 = (d.performAll actions).1 := by
  induction actions generalizing c d with
  | nil => rfl
  | cons action actions ih =>
    obtain ⟨hreply, hrelated⟩ := h.perform (hasked action List.mem_cons_self) hrelated
    have hrest := ih (fun a ha => hasked a (List.mem_cons_of_mem action ha)) hrelated
    rw [Cache.performAll, Cache.performAll, hreply, hrest]

end Alike

end Cache

/-! ## Files as entries -/

namespace FileStore

open Files (Path components nameFault?)
open Cache (Action IsKey)

variable {f f₀ : FileStore} {m : MemoryStore} {p : Path} {key : String} {v : Json}

/-- **A store whose folder is not there.** -/
structure IsNew (f : FileStore) : Prop where
  absent : f.tree.find (components f.folder) = .error .notFound
  /-- When it is made, nothing is in it: also no folder that its own path goes through. -/
  empty : ∀ made p, f.tree.makeFolders f.stamp (components f.folder) = .ok made →
    made.walk [] (components f.folder) = .ok p → ∀ name, made.node? (p ++ [name]) = none

/-- **A folder that is not there is new**, unless the path to it goes up. -/
theorem isNew_of_absent (hclosed : f.tree.IsClosed) (hdown : ".." ∉ components f.folder)
    (habsent : f.tree.find (components f.folder) = .error .notFound) : f.IsNew where
  absent := habsent
  empty := by
    intro made p hmade hwalk
    refine Files.Tree.node?_eq_none_of_makeFolders hclosed hdown (fun n hn => ?_) hmade hwalk
    cases habsent.symm.trans hn

/-- **What a write relies on**: the folder can be made, the key is no longer than a name may be, and
a value that is not nested too deep is read back. -/
structure Takes (f : FileStore) (key : String) (v : Json) : Prop where
  makes : ∃ made, f.tree.makeFolders f.stamp (components f.folder) = .ok made
  names : nameFault? key = none
  reads_back : v.depth ≤ maxCachedDepth → v.ReadsBack

/-- **The files of a folder are the entries of a store in memory.** -/
structure Holds (f : FileStore) (p : Path) (m : MemoryStore) : Prop where
  checked : Files.Tree.checked (components f.folder) = .ok ()
  walk : f.tree.walk [] (components f.folder) = .ok p
  isFolder : f.tree.IsFolder p
  onlyFiles : f.tree.OnlyFiles p
  entry : ∀ key, f.tree.node? (p ++ [key]) = (m.get? key).map fun e => .file e.2.compact e.1
  kept : ∀ key time v, m.get? key = some (time, v) → nameFault? key = none ∧ v.ReadsBack

namespace Holds

theorem find_iff (h : f.Holds p m) (hkey : IsKey key) (n : Files.Node) :
    f.tree.find (f.path key) = .ok n ↔
      ∃ time v, m.get? key = some (time, v) ∧ n = .file v.compact time := by
  rw [hkey.path_eq, Files.Tree.find_append_name (hkey.checked_append h.checked) hkey.isName h.walk
    h.isFolder, h.entry, Option.map_eq_some_iff]
  constructor
  · rintro ⟨-, ⟨time, v⟩, hget, rfl⟩
    exact ⟨time, v, hget, rfl⟩
  · rintro ⟨time, v, hget, rfl⟩
    exact ⟨(h.kept key time v hget).1, (time, v), hget, rfl⟩

/-- **A file that is written is an entry that is kept.** -/
theorem writeText (h : f.Holds p m) (hkey : IsKey key) (hname : nameFault? key = none)
    (hv : v.ReadsBack) (now : Int) :
    ∃ tree, f.tree.writeText (f.path key) v.compact now = .ok tree ∧
      Holds { f with tree } p (m.insert key now v) := by
  have hnew : ¬f.tree.IsFolder (p ++ [key]) := by
    rintro ⟨time, hfolder⟩
    rw [h.entry, Option.map_eq_some_iff] at hfolder
    obtain ⟨e, -, he⟩ := hfolder
    cases he
  have hkeeps := Files.Tree.keepsFolders_put (.file v.compact now) hnew
  refine ⟨f.tree.put (p ++ [key]) (.file v.compact now), ?_, ?_⟩
  · rw [hkey.path_eq, Files.Tree.writeText_append_eq_ok_iff hkey.isName]
    exact ⟨hkey.checked_append h.checked, p, h.walk, h.isFolder, hname, hnew, rfl⟩
  · refine ⟨h.checked, hkeeps.walk h.walk h.isFolder, hkeeps p h.isFolder, ?_, ?_, ?_⟩
    · intro e he hne hparent
      rcases Files.Tree.mem_entries_put he with rfl | he
      · rfl
      · exact h.onlyFiles e he hne hparent
    · intro key'
      rw [Files.Tree.node?_put, MemoryStore.get?_insert, h.entry]
      by_cases hkey' : key = key' <;> simp [hkey', eq_comm]
    · intro key' time v' hget
      rw [MemoryStore.get?_insert] at hget
      split at hget
      · cases hget
        subst_vars
        exact ⟨hname, hv⟩
      · exact h.kept key' time v' hget

/-- **A folder that is cleared holds no entry.** -/
theorem clearFiles (h : f.Holds p m) : Holds { f with tree := f.tree.clearFiles p } p {} where
  checked := h.checked
  walk := h.onlyFiles.keepsFolders_clearFiles.walk h.walk h.isFolder
  isFolder := h.onlyFiles.keepsFolders_clearFiles p h.isFolder
  onlyFiles := fun e he => h.onlyFiles e (List.mem_filter.mp he).1
  entry := h.onlyFiles.node?_clearFiles
  kept := nofun

end Holds

/-- A folder that is made in place of nothing holds no entry. -/
theorem IsNew.holds (h : f.IsNew) {made : Files.Tree}
    (hmade : f.tree.makeFolders f.stamp (components f.folder) = .ok made) :
    ∃ p, Holds { f with tree := made } p {} := by
  have hstart : f.tree.IsOpen [] := by
    intro q hq
    rw [List.prefix_nil.mp hq]
    exact Files.Tree.isFolder_nil_of_find h.absent
  obtain ⟨hchecked, hfrom⟩ := Files.Tree.makeFolders_eq_ok_iff.mp hmade
  obtain ⟨-, p, hwalk, hp⟩ := Files.Tree.exists_walk_of_makeFoldersFrom hfrom hstart
  have hnone := h.empty made p hmade hwalk
  exact ⟨p, hchecked, hwalk, hp, Files.Tree.onlyFiles_of_node? hnone, hnone, nofun⟩

/-- **A file store and a store in memory with the same entries**: the folder is not there yet and
nothing was written, or it holds what was. -/
inductive Matches (f₀ : FileStore) : FileStore → MemoryStore → Prop where
  | absent : Matches f₀ f₀ {}
  | made {f : FileStore} {m : MemoryStore} (p : Path) (h : f.Holds p m) : Matches f₀ f m

namespace Matches

/-- **Looking for a key's file**: it is there if the entry is, and is what was kept. -/
theorem find_cases (hnew : f₀.IsNew) (h : Matches f₀ f m) (hkey : IsKey key) :
    (∃ fault, f.tree.find (f.path key) = .error fault ∧ m.get? key = none) ∨
      ∃ time v, f.tree.find (f.path key) = .ok (.file v.compact time) ∧
        m.get? key = some (time, v) ∧ v.ReadsBack := by
  cases h with
  | absent =>
    left
    cases hfind : f.tree.find (f.path key) with
    | error fault => exact ⟨fault, rfl, rfl⟩
    | ok n =>
      rw [hkey.path_eq] at hfind
      refine absurd hfind (Files.Tree.find_append_ne_ok (fun n hn => ?_) [key] n)
      cases hnew.absent.symm.trans hn
  | made p h =>
    cases hget : m.get? key with
    | none =>
      left
      cases hfind : f.tree.find (f.path key) with
      | error fault => exact ⟨fault, rfl, rfl⟩
      | ok n =>
        obtain ⟨time, v, hsome, -⟩ := (h.find_iff hkey n).mp hfind
        cases hget.symm.trans hsome
    | some e =>
      exact .inr ⟨e.1, e.2, (h.find_iff hkey _).mpr ⟨e.1, e.2, hget, rfl⟩, rfl,
        (h.kept key e.1 e.2 hget).2⟩

theorem writtenAt?_eq (hnew : f₀.IsNew) (h : Matches f₀ f m) (hkey : IsKey key) :
    f.writtenAt? key = (Store.writtenAt m key).1 := by
  obtain ⟨fault, hfind, hget⟩ | ⟨time, v, hfind, hget, -⟩ := h.find_cases hnew hkey <;>
    simp [writtenAt?, hfind, Store.writtenAt, hget, Files.Node.modified]

theorem readValue_eq (hnew : f₀.IsNew) (h : Matches f₀ f m) (hkey : IsKey key) :
    f.readValue key = (Store.read m key).1 := by
  obtain ⟨fault, hfind, hget⟩ | ⟨time, v, hfind, hget, hback⟩ := h.find_cases hnew hkey
  · simp [readValue, Files.Tree.readText, hfind, Store.read, hget]
  · rw [Json.ReadsBack] at hback
    simp [readValue, Files.Tree.readText, hfind, Store.read, hget, hback]

/-- **A write succeeds**, and keeps the two alike. -/
theorem write (hnew : f₀.IsNew) (h : Matches f₀ f m) (hkey : IsKey key)
    (hname : nameFault? key = none) (hv : v.ReadsBack)
    (hmakes : ∃ made, f₀.tree.makeFolders f₀.stamp (components f₀.folder) = .ok made) (now : Int) :
    (f.writeValue key v now).1 = .ok () ∧
      Matches f₀ (f.writeValue key v now).2 (m.insert key now v) := by
  cases h with
  | absent =>
    obtain ⟨made, hmade⟩ := hmakes
    obtain ⟨p, hholds⟩ := hnew.holds hmade
    obtain ⟨tree, htree, hholds⟩ := hholds.writeText hkey hname hv now
    have hpath : made.writeText (f.path key) v.compact now = .ok tree := htree
    rw [writeValue, hmade]
    dsimp only
    rw [hpath]
    exact ⟨rfl, .made p hholds⟩
  | made p h =>
    have hmade : f.tree.makeFolders f.stamp (components f.folder) = .ok f.tree :=
      Files.Tree.makeFolders_eq_ok_iff.mpr
        ⟨h.checked, Files.Tree.makeFoldersFrom_of_walk h.walk h.isFolder⟩
    obtain ⟨tree, htree, hholds⟩ := h.writeText hkey hname hv now
    rw [writeValue, hmade]
    dsimp only
    rw [htree]
    exact ⟨rfl, .made p hholds⟩

/-- **Clearing the folder succeeds**, and forgets every entry. -/
theorem clear (hnew : f₀.IsNew) (h : Matches f₀ f m) :
    f.clear.1 = .ok () ∧ Matches f₀ f.clear.2 {} := by
  cases h with
  | absent =>
    simp only [FileStore.clear, hnew.absent]
    exact ⟨trivial, .absent⟩
  | made p h =>
    obtain ⟨time, hfolder⟩ := h.isFolder
    have hfind : f.tree.find (components f.folder) = .ok (.folder time) :=
      Files.Tree.find_eq_ok_iff.mpr ⟨h.checked, p, h.walk, hfolder⟩
    simp only [FileStore.clear, hfind, h.walk]
    exact ⟨trivial, .made p h.clearFiles⟩

end Matches

end FileStore

theorem MemoryStore.read_snd (m : MemoryStore) (key : String) : (Store.read m key).2 = m := by
  simp only [Store.read]
  split <;> rfl

namespace Cache

/-- **An action within bounds**: its key is one, and its value is nested at most as deep as values
are read. -/
def Action.Fits : Action → Prop
  | .write key v => IsKey key ∧ v.depth ≤ maxCachedDepth
  | .has key | .read key => IsKey key
  | .flush | .setKey _ | .setLabel _ | .setExpire _ | .setExpireGlobal _ | .advance _ => True

theorem alike_files_memory {f : FileStore} (hnew : f.IsNew) {asked : Action → Prop}
    (hfits : ∀ action, asked action → action.Fits)
    (htakes : ∀ key v, asked (.write key v) → f.Takes key v) : Alike f.Matches asked where
  has h hasked := ⟨h.writtenAt?_eq hnew (hfits _ hasked), h⟩
  read h hasked := by
    refine ⟨h.readValue_eq hnew (hfits _ hasked), ?_⟩
    rwa [MemoryStore.read_snd]
  write now h hasked := by
    obtain ⟨hkey, hdepth⟩ := hfits _ hasked
    obtain ⟨hmakes, hname, hback⟩ := htakes _ _ hasked
    exact h.write hnew hkey hname (hback hdepth) hmakes now
  flush h := h.clear hnew

/-- **Files answer as memory does.**  Over a folder that is not there at first, a cache gives to any
actions within bounds the replies that it gives over a store in memory: the same answers, values and
errors. -/
theorem files_answer_as_memory (c : Cache FileStore) (actions : List Action)
    (hnew : c.store.IsNew) (hfits : ∀ action ∈ actions, action.Fits)
    (htakes : ∀ key v, .write key v ∈ actions → c.store.Takes key v) :
    (c.performAll actions).1 = ((c.withStore ({} : MemoryStore)).performAll actions).1 :=
  (alike_files_memory hnew hfits htakes).performAll (fun _ hmem => hmem) ⟨.absent, rfl⟩

/-- A value written, found, read, outlived, and written again. -/
def keptActions : List Action :=
  [.has "k", .setExpireGlobal (.after 5), .write "k" (.arr [.null]), .has "k", .advance 6, .has "k",
    .read "k", .write "k" (.bool true), .has "k", .flush, .has "k", .read "k"]

theorem files_answer_as_memory_kept :
    (performAll ({ store := { folder := "a/b" }, clock := .manual 0 0 } : Cache FileStore)
      keptActions).1 = [.found false, .done, .done, .found true, .done, .found false,
        .value (.arr [.null]), .done, .found true, .done, .found false,
        .refused (.cacheRead "k")] := by
  refine (files_answer_as_memory _ _ ?_ ?_ ?_).trans ?_
  · exact FileStore.isNew_of_absent Files.Tree.isClosed_empty (by decide) rfl
  · have hkey : IsKey "k" := by
      refine ⟨by decide, fun ch hch => ?_⟩
      obtain rfl : ch = 'k' := by simpa using hch
      decide +kernel
    simp [keptActions, Action.Fits, hkey, Json.depth, Json.itemsDepth, maxCachedDepth]
  · intro key v hmem
    simp only [keptActions, List.mem_cons, Action.write.injEq, reduceCtorEq, false_or, or_false,
      List.not_mem_nil] at hmem
    rcases hmem with ⟨rfl, rfl⟩ | ⟨rfl, rfl⟩
    · exact ⟨⟨_, rfl⟩, rfl, fun _ => rfl⟩
    · exact ⟨⟨_, rfl⟩, rfl, fun _ => rfl⟩
  · rfl

end Cache

end SqlShorthand
