import SqlShorthand.Cache.Basic
import SqlShorthand.Proofs.Files.Tree

/-!
# Proofs/Cache/Runs — a cache used step by step, and the keys that it gives

A cache is used by actions (`Action`), each of which gives a reply and the cache that remains; a run
is a list of them (`performAll`).

The settings of a cache stay safe over every run (`SafeSettings.performAll`): a key that was set is
made of word characters and hyphens, a label of word characters.  So is every key that the cache
gives (`SafeSettings.isKey_keyFor`), and such a key is an ordinary name: under a folder it leads to
the entry of that name, and writing it changes no other (`IsKey.staysInside`).
-/

namespace SqlShorthand

/-- The entry under a key after one was kept. -/
theorem MemoryStore.get?_insert (m : MemoryStore) (k key : String) (time : Int) (v : Json) :
    (m.insert k time v).get? key = if k = key then some (time, v) else m.get? key := by
  have hothers : k ≠ key →
      (m.entries.filter fun e => e.1 != k).lookup key = m.entries.lookup key := by
    intro hne
    induction m.entries with
    | nil => rfl
    | cons entry entries ih => grind
  rw [get?, insert, List.lookup_cons]
  split
  · rename_i h
    rw [if_pos (eq_of_beq h).symm]
  · rename_i h
    have hne : k ≠ key := fun heq => by simp [heq] at h
    rw [if_neg hne, hothers hne, get?]

namespace Cache

variable {σ : Type} {c : Cache σ} {key : String}

/-! ## Actions -/

/-- What can be asked of a cache. -/
inductive Action where
  | write (key : String) (v : Json)
  | has (key : String)
  | read (key : String)
  | flush
  | setKey (key : String)
  | setLabel (label : String)
  | setExpire (e : Expiry)
  | setExpireGlobal (e : Expiry)
  | advance (seconds : UInt64)

/-- What a cache replies. -/
inductive Reply where
  | done
  | found (fresh : Bool)
  | value (v : Json)
  | refused (e : Error)

namespace Reply

/-- The reply that tells whether something was done. -/
def ofUnit : Except Error Unit → Reply
  | .ok () => .done
  | .error e => .refused e

/-- The reply that gives a value. -/
def ofValue : Except Error Json → Reply
  | .ok v => .value v
  | .error e => .refused e

end Reply

section Runs

variable [Store σ]

/-- The reply to an action, and the cache that remains. -/
def perform (c : Cache σ) : Action → Reply × Cache σ
  | .write key v => (.ofUnit (c.write key v).1, (c.write key v).2)
  | .has key => (.found (c.has key).1, (c.has key).2)
  | .read key => (.ofValue (c.read key).1, (c.read key).2)
  | .flush => (.ofUnit c.flush.1, c.flush.2)
  | .setKey key =>
    match c.setKey key with
    | .ok c => (.done, c)
    | .error e => (.refused e, c)
  | .setLabel label => (.done, c.setLabel label)
  | .setExpire e => (.done, c.setExpire e)
  | .setExpireGlobal e => (.done, c.setExpireGlobal e)
  | .advance seconds => (.done, { c with clock := c.clock.advance seconds })

/-- The replies to some actions in turn, and the cache that remains. -/
def performAll (c : Cache σ) : List Action → List Reply × Cache σ
  | [] => ([], c)
  | action :: actions =>
    ((c.perform action).1 :: ((c.perform action).2.performAll actions).1,
      ((c.perform action).2.performAll actions).2)

end Runs

/-! ## Keys -/

/-- **A key**: word characters and hyphens, at least one. -/
def IsKey (key : String) : Prop := key ≠ "" ∧ ∀ c ∈ key.toList, isKeyChar c = true

instance (key : String) : Decidable (IsKey key) := inferInstanceAs (Decidable (_ ∧ _))

theorem setKey_eq (c : Cache σ) (key : String) :
    c.setKey key = if IsKey key then .ok { c with key := some key }
      else .error (.invalidCacheKey key) := by
  have hkey : (!key.isEmpty && key.toList.all isKeyChar) = true ↔ IsKey key := by
    simp [IsKey]
  rw [setKey]
  exact if_congr hkey rfl rfl

theorem notMem_of_isKey (h : IsKey key) {ch : Char} (hch : isKeyChar ch = false) :
    ch ∉ key.toList := by
  intro hmem
  rw [h.2 ch hmem] at hch
  cases hch

/-- **Settings that give keys**: a key that was set is one, and a label goes before one. -/
structure SafeSettings (c : Cache σ) : Prop where
  key : ∀ key ∈ c.key, IsKey key
  label : ∀ label ∈ c.label, ∀ ch ∈ label.toList, Text.isWord ch = true

theorem SafeSettings.reset (c : Cache σ) : c.reset.SafeSettings := ⟨nofun, nofun⟩

/-- **An action leaves the settings safe.** -/
theorem SafeSettings.perform [Store σ] (h : c.SafeSettings) (action : Action) :
    (c.perform action).2.SafeSettings := by
  cases action with
  | write | read | flush | setExpire | advance => exact ⟨h.key, h.label⟩
  | has | setExpireGlobal => exact .reset _
  | setKey key =>
    rw [Cache.perform, setKey_eq]
    by_cases hkey : IsKey key
    · rw [if_pos hkey]
      refine ⟨fun key' hkey' => ?_, h.label⟩
      rwa [← Option.some.inj hkey']
    · rw [if_neg hkey]
      exact h
  | setLabel label =>
    refine ⟨h.key, fun label' hlabel' ch hch => ?_⟩
    rw [← Option.some.inj hlabel', String.toList_ofList] at hch
    exact (List.mem_filter.mp hch).2

/-- **A run leaves the settings safe.** -/
theorem SafeSettings.performAll [Store σ] (h : c.SafeSettings) (actions : List Action) :
    (c.performAll actions).2.SafeSettings := by
  induction actions generalizing c with
  | nil => exact h
  | cons action actions ih => exact ih (h.perform action)

end Cache

namespace Digest

theorem isWord_hexDigit (n : Nat) : Text.isWord (hexDigit n) = true := by
  have hdigits : ∀ i : Fin 16, Text.isWord (Nat.digitChar i) = true := by decide +kernel
  exact hdigits ⟨n % 16, Nat.mod_lt _ (by decide)⟩

/-- A digest is written in word characters. -/
theorem isWord_of_mem_sha1Hex {message : List UInt8} :
    ∀ c ∈ (sha1Hex message).toList, Text.isWord c = true := by
  intro c hc
  rw [sha1Hex, String.toList_ofList, List.mem_flatMap] at hc
  obtain ⟨byte, -, hc⟩ := hc
  simp only [hexByte, List.mem_cons, List.not_mem_nil, or_false] at hc
  rcases hc with rfl | rfl <;> exact isWord_hexDigit _

theorem sha1Hex_ne_empty (message : List UInt8) : sha1Hex message ≠ "" := by
  intro h
  have hnil := congrArg String.toList h
  rw [sha1Hex, String.toList_ofList, sha1] at hnil
  simp [bytesOf, hexByte] at hnil

end Digest

namespace Cache

variable {σ : Type} {c : Cache σ} {key : String}

/-- **The key of a query is a key**, wherever it comes from. -/
theorem SafeSettings.isKey_keyFor (h : c.SafeSettings) (id : ConnectionId) (sql : String)
    (params : Params) : IsKey (c.keyFor id sql params) := by
  have hword {ch : Char} (hch : Text.isWord ch = true) : isKeyChar ch = true := by
    rw [isKeyChar, hch, Bool.true_or]
  rw [keyFor]
  split
  · exact h.key _ ‹_›
  · dsimp only
    split
    · rename_i label hlabel
      refine ⟨by simp, fun ch hch => ?_⟩
      simp only [String.toList_append, List.mem_append] at hch
      rcases hch with (hch | hch) | hch
      · exact hword (h.label label hlabel ch hch)
      · rw [List.mem_singleton.mp hch]
        decide
      · exact hword (Digest.isWord_of_mem_sha1Hex ch hch)
    · exact ⟨Digest.sha1Hex_ne_empty _, fun ch hch => hword (Digest.isWord_of_mem_sha1Hex ch hch)⟩

/-! ## Keys as file names -/

theorem IsKey.isName (h : IsKey key) : Files.IsName key := by
  have hdot : '.' ∉ key.toList := notMem_of_isKey h (by decide +kernel)
  refine ⟨?_, ?_⟩
  · rw [Files.staysPut, Bool.or_eq_false_iff]
    refine ⟨beq_eq_false_iff_ne.mpr h.1, beq_eq_false_iff_ne.mpr ?_⟩
    rintro rfl
    exact hdot (by decide)
  · rintro rfl
    exact hdot (by decide)

theorem IsKey.components_eq (h : IsKey key) : Files.components key = [key] := by
  have hslash : '/' ∉ key.toList := notMem_of_isKey h (by decide +kernel)
  have hsplit : key.toList.splitOn '/' = [key.toList] := by
    refine List.splitOnP_eq_singleton fun c hc => ?_
    rw [beq_eq_false_iff_ne]
    rintro rfl
    exact hslash hc
  rw [Files.components]
  split
  · rename_i rest hkey
    exact absurd (hkey ▸ List.mem_cons_self) hslash
  · rw [hsplit]
    simp

/-- **The path of a key** is one name below the folder. -/
theorem IsKey.path_eq (h : IsKey key) (f : FileStore) :
    f.path key = Files.components f.folder ++ [key] := by
  have hslash : '/' ∉ key.toList := notMem_of_isKey h (by decide +kernel)
  rw [FileStore.path, Files.joined, h.components_eq]
  split
  · rename_i hroot
    obtain ⟨rfl, -⟩ := List.cons.inj hroot
    exact absurd (by decide) hslash
  · rfl

theorem IsKey.checked_append (h : IsKey key) {names : List String}
    (hnames : Files.Tree.checked names = .ok ()) : Files.Tree.checked (names ++ [key]) = .ok () := by
  rw [Files.Tree.checked_eq_ok_iff] at hnames ⊢
  intro name hname ch hch hzero
  rcases List.mem_append.mp hname with hname | hname
  · exact hnames name hname ch hch hzero
  · rw [List.mem_singleton.mp hname] at hch
    have hnul : isKeyChar (Char.ofNat 0) = false := by decide +kernel
    have hkey := h.2 ch hch
    rw [← Char.ofNat_toNat ch, hzero, hnul] at hkey
    cases hkey

/-- **A key that stays inside the folder of a file store.** -/
structure StaysInside (f : FileStore) (key : String) : Prop where
  isKey : IsKey key
  /-- It holds nothing that divides a path, and no dot… -/
  notMem : '/' ∉ key.toList ∧ '\\' ∉ key.toList ∧ '.' ∉ key.toList
  /-- …so its path is one ordinary name below the folder. -/
  path : f.path key = Files.components f.folder ++ [key] ∧ Files.IsName key
  /-- What the path leads to stands directly in the folder… -/
  leads : ∀ p q, f.tree.walk [] (Files.components f.folder) = .ok p →
    f.tree.walk [] (f.path key) = .ok q → q = p ++ [key]
  /-- …and writing there changes no other entry. -/
  writes : ∀ text stamp tree, f.tree.writeText (f.path key) text stamp = .ok tree →
    ∃ p, f.tree.walk [] (Files.components f.folder) = .ok p ∧
      ∀ q, q ≠ p ++ [key] → tree.node? q = f.tree.node? q

theorem IsKey.staysInside (h : IsKey key) (f : FileStore) : StaysInside f key where
  isKey := h
  notMem := ⟨notMem_of_isKey h (by decide +kernel), notMem_of_isKey h (by decide +kernel),
    notMem_of_isKey h (by decide +kernel)⟩
  path := ⟨h.path_eq f, h.isName⟩
  leads := by
    intro p q hp hq
    rw [h.path_eq f] at hq
    obtain ⟨p', hp', hname⟩ := Files.Tree.walk_append_eq_ok_iff.mp hq
    cases hp.symm.trans hp'
    exact ((Files.Tree.walk_name_eq_ok_iff h.isName).mp hname).2.2.2
  writes := by
    intro text stamp tree hwrite
    rw [h.path_eq f] at hwrite
    obtain ⟨-, p, hp, -, -, -, rfl⟩ :=
      (Files.Tree.writeText_append_eq_ok_iff h.isName).mp hwrite
    refine ⟨p, hp, fun q hq => ?_⟩
    rw [Files.Tree.node?_put, if_neg hq]

/-! ## Every run -/

/-- **A cache whose keys are safe to use as names of files.** -/
structure GivesKeys (c : Cache σ) [Store σ] : Prop where
  /-- Whatever the query and the folder, its key stays inside. -/
  inside : ∀ (f : FileStore) (id : ConnectionId) (sql : String) (params : Params),
    StaysInside f (c.keyFor id sql params)
  /-- A key can be set exactly if it is one… -/
  accepts_iff : ∀ key, (∃ c', c.setKey key = .ok c') ↔ IsKey key
  /-- …and a key that is refused leaves the cache, and so the key that was set, as it is. -/
  refused : ∀ key e, c.setKey key = .error e →
    e = .invalidCacheKey key ∧ c.perform (.setKey key) = (.refused e, c)

/-- **Keys stay inside the folder.**  However a cache is used, the key of every query is at least one
character long and made of word characters and hyphens; under the folder of a file store it names an
entry directly in it, and no other entry is changed by writing there. -/
theorem keys_stay_inside [Store σ] (store : σ) (clock : Clock) (actions : List Action) :
    GivesKeys (performAll ({ store, clock } : Cache σ) actions).2 where
  inside := by
    have hstart : SafeSettings ({ store, clock } : Cache σ) := ⟨nofun, nofun⟩
    exact fun f id sql params =>
      ((hstart.performAll actions).isKey_keyFor id sql params).staysInside f
  accepts_iff := by
    intro key
    rw [setKey_eq]
    split <;> simp_all
  refused := by
    intro key e h
    refine ⟨?_, by rw [perform, h]⟩
    rw [setKey_eq] at h
    split at h <;> cases h
    rfl

end Cache

end SqlShorthand
