import SqlShorthand.Proofs.Command.RoundTrip
import SqlShorthand.Proofs.Session.Opening

/-!
# Proofs/Session/RowKeys — a row is selected by the key that was given last

A key column is given in three ways: by a record, by the clause of a command, or from outside.
`Move.givenKeys` reads all three off a move, blank ones and those for unknown connections included,
and `keysGiven` collects what a run gives to the connections that it finds registered.

The key columns of a connection are what these make of an empty map, whatever else was done
(`KeysFollow`): a connection is registered with an empty one, and of calls only `key` touches it
(`givesKeys_exec`).  Which key a table has then depends on one of them alone, the last that is given
for it and is not blank (`KeyMap.get_setAll_keysFor`).
-/

namespace SqlShorthand

/-! ## Keys that are given -/

/-- A key column as it is given for a table on a connection. -/
structure GivenKey where
  connection : ConnectionId
  table : String
  text : String
  deriving DecidableEq

/-- Whether the key counts for a table on a connection: a blank one never does. -/
def GivenKey.counts (id : ConnectionId) (table : String) (g : GivenKey) : Bool :=
  g.connection == id && g.table == table && !Text.allBlank g.text

/-- **The key column of a table**, after these were given: the last that counts, trimmed, and the
standard one if there is none. -/
def keyAfter (given : List GivenKey) (id : ConnectionId) (table : String) : String :=
  ((given.filter (·.counts id table)).getLast?.map fun g => Text.trimmed g.text).getD defaultKey

theorem keyAfter_append_singleton (given : List GivenKey) (g : GivenKey) (id : ConnectionId)
    (table : String) :
    keyAfter (given ++ [g]) id table
      = if g.counts id table then Text.trimmed g.text else keyAfter given id table := by
  rw [keyAfter, List.filter_append, List.filter_singleton]
  cases g.counts id table with
  | true =>
    rw [cond_true, List.getLast?_concat]
    rfl
  | false =>
    rw [cond_false, List.append_nil]
    rfl

/-- The tables and key columns that are given on one connection. -/
def keysFor (id : ConnectionId) (given : List GivenKey) : List (String × String) :=
  (given.filter (·.connection == id)).map fun g => (g.table, g.text)

theorem keysFor_append (id : ConnectionId) (given given' : List GivenKey) :
    keysFor id (given ++ given') = keysFor id given ++ keysFor id given' := by
  rw [keysFor, List.filter_append, List.map_append, keysFor, keysFor]

theorem keysFor_singleton (id : ConnectionId) (g : GivenKey) :
    keysFor id [g] = if g.connection == id then [(g.table, g.text)] else [] := by
  rw [keysFor, List.filter_singleton]
  cases g.connection == id <;> rfl

/-- A choice among connections does not touch one that is chosen. -/
theorem keysFor_filter {id : ConnectionId} {p : ConnectionId → Bool} (hid : p id = true)
    (given : List GivenKey) :
    keysFor id (given.filter fun g => p g.connection) = keysFor id given := by
  rw [keysFor, keysFor, List.filter_filter]
  refine congrArg (List.map _) (List.filter_congr fun g _ => ?_)
  cases heq : g.connection == id with
  | true => rw [eq_of_beq heq, hid]; rfl
  | false => rfl

theorem keysFor_map {α : Type} (id : ConnectionId) (table text : α → String) (xs : List α) :
    keysFor id (xs.map fun x => ⟨id, table x, text x⟩) = xs.map fun x => (table x, text x) := by
  simp [keysFor, List.filter_map, Function.comp_def]

/-- Keys for other connections give nothing. -/
theorem keysFor_eq_nil {id : ConnectionId} {given : List GivenKey}
    (h : ∀ g ∈ given, g.connection ≠ id) : keysFor id given = [] := by
  rw [keysFor, List.map_eq_nil_iff, List.filter_eq_nil_iff]
  intro g hg heq
  exact h g hg (eq_of_beq heq)

namespace KeyMap

theorem lookup_insertSorted (table key : String) (entries : List (String × String))
    (table' : String) :
    (insertSorted table key entries).lookup table'
      = if table' == table then some key else entries.lookup table' := by
  induction entries with
  | nil =>
    rw [insertSorted, List.lookup_cons]
    cases table' == table <;> rfl
  | cons entry rest ih =>
    obtain ⟨t, k⟩ := entry
    rw [insertSorted]
    split
    · rename_i heq
      obtain rfl := eq_of_beq heq
      rw [List.lookup_cons, List.lookup_cons]
      cases table' == t <;> rfl
    · rename_i hne
      split
      · rw [List.lookup_cons]
        cases table' == table <;> rfl
      · rw [List.lookup_cons, List.lookup_cons, ih]
        cases htable : table' == t with
        | false => rfl
        | true =>
          obtain rfl := eq_of_beq htable
          rw [Bool.not_eq_true] at hne
          rw [hne]
          rfl

/-- A key that is set is found under its table, if it is not blank. -/
theorem get_set (m : KeyMap) (table key table' : String) :
    (m.set table key).get table'
      = if table == table' && !Text.allBlank key then Text.trimmed key else m.get table' := by
  rw [set]
  cases Text.allBlank key with
  | true => simp
  | false =>
    simp only [get, lookup_insertSorted, Bool.not_false, Bool.and_true, Bool.false_eq_true, if_false,
      BEq.comm (a := table')]
    cases table == table' <;> rfl

theorem setAll_append (m : KeyMap) (pairs pairs' : List (String × String)) :
    m.setAll (pairs ++ pairs') = (m.setAll pairs).setAll pairs' := List.foldl_append

/-- **The last key that counts is found.** -/
theorem get_setAll_keysFor (given : List GivenKey) (id : ConnectionId) (table : String) :
    (({} : KeyMap).setAll (keysFor id given)).get table = keyAfter given id table := by
  induction given using List.reverseRecOn with
  | nil => rfl
  | append_singleton given g ih =>
    rw [keysFor_append, setAll_append, keysFor_singleton, keyAfter_append_singleton,
      GivenKey.counts, ← ih]
    cases g.connection == id with
    | true => exact get_set _ g.table g.text table
    | false => rfl

end KeyMap

/-! ## Giving keys -/

/-- The keys that a command gives: by its verb, in a record, or else in the clause for its table. -/
def Command.givenKeys (c : Command) (args : List Params) : List GivenKey :=
  if c.verb = some .key then
    match args.head?.bind Params.asRecord? with
    | some r => r.fields.map fun f => ⟨c.connection, f.1, f.2.asText⟩
    | none => if c.table.isEmpty then [] else [⟨c.connection, c.table, c.clause⟩]
  else []

theorem Command.connection_of_mem_givenKeys {c : Command} {args : List Params} {g : GivenKey}
    (h : g ∈ c.givenKeys args) : g.connection = c.connection := by
  rw [givenKeys] at h
  split at h
  · split at h
    · obtain ⟨f, -, rfl⟩ := List.mem_map.mp h
      rfl
    · split at h
      · cases h
      · rw [List.mem_singleton.mp h]
  · cases h

/-- A clause is the key of its table if both are there; an empty one would set nothing. -/
theorem setAll_clauseKeys (m : KeyMap) (c : Command) :
    m.setAll (keysFor c.connection
        (if c.table.isEmpty then [] else [⟨c.connection, c.table, c.clause⟩]))
      = if !c.clause.isEmpty && !c.table.isEmpty then m.set c.table c.clause else m := by
  cases c.table.isEmpty with
  | true => rw [Bool.not_true, Bool.and_false]; rfl
  | false =>
    rw [if_neg Bool.false_ne_true, keysFor_singleton, beq_self_eq_true, Bool.not_false,
      Bool.and_true]
    cases hclause : c.clause.isEmpty with
    | true => rw [String.isEmpty_iff.mp hclause]; rfl
    | false => rfl

/-- The keys that a call gives, if it can be read. -/
def Call.givenKeys (call : Call) : List GivenKey :=
  match Command.parse call.command with
  | .ok c => c.givenKeys call.args
  | .error _ => []

/-- A predicate stands first in the clause that it narrows. -/
theorem Command.scopedClause_eq_append (predicate clause : String) :
    ∃ rest, scopedClause predicate clause = "WHERE " ++ predicate ++ rest := by
  rw [scopedClause]
  split
  · exact ⟨"", String.append_empty.symm⟩
  · exact ⟨_, String.append_assoc⟩
  · split
    · exact ⟨"", String.append_empty.symm⟩
    · exact ⟨_, String.append_assoc⟩

/-- A change of the key columns of one connection. -/
theorem Registry.keys_modify {β : Type} (r : Registry β) (id id' : ConnectionId) (f : KeyMap → KeyMap) :
    ((r.modify id fun c => { c with keys := f c.keys }).find? id').map (·.keys)
      = (r.find? id').map fun c => if id == id' then f c.keys else c.keys := by
  have hid : ∀ c : Connection β, { c with keys := f c.keys }.id = c.id := fun _ => rfl
  rw [find?_modify r id id' hid, Option.map_map]
  cases hfind : r.find? id' with
  | none => rfl
  | some c =>
    rw [Option.map_some, Option.map_some, Function.comp_apply, id_of_find? hfind,
      BEq.comm]
    split <;> rfl

/-- A connection that is found after one was registered was there before, or is new and has no key
columns. -/
theorem Registry.Ascending.old_or_new_of_register {β : Type} {r r' : Registry β} (hr : r.Ascending)
    {config : ConnectionConfig} {given : ConnectionId} {events : List Event}
    (h : r.register config = .ok (given, events, r')) {id : ConnectionId} {c : Connection β}
    (hc : r'.find? id = some c) :
    r.find? id = some c ∨ r.contains id = false ∧ c.keys = {} := by
  rw [hr.find?_register h] at hc
  cases hold : r.find? id with
  | some old => exact .inl (by rwa [hold] at hc)
  | none =>
    rw [hold, Option.none_or] at hc
    split at hc
    · obtain rfl := Option.some.inj hc
      exact .inr ⟨contains_eq_false hold, Connection.pushLog_keys _ _⟩
    · cases hc

namespace Session

variable {γ β σ : Type} {s : Session γ β σ}

/-- The keys that a move gives. -/
def Move.givenKeys : Move γ σ → List GivenKey
  | .exec call => call.givenKeys
  | .setKey id table key => [⟨id, table, key⟩]
  | _ => []

/-- **A change that gives keys**: the same connections are registered, and each has got what is
given to it. -/
structure GivesKeys (given : List GivenKey) (s t : Session γ β σ) : Prop where
  ids : t.registry.ids = s.registry.ids
  keys : ∀ id, (t.registry.find? id).map (·.keys)
    = (s.registry.find? id).map fun c => c.keys.setAll (keysFor id given)

theorem givesKeys_nil {t : Session γ β σ} (h : t.registry = s.registry) : GivesKeys [] s t where
  ids := by rw [h]
  keys := fun id => by rw [h]; rfl

theorem givesKeys_setKey (s : Session γ β σ) (id : ConnectionId) (table key : String) :
    GivesKeys [⟨id, table, key⟩] s (s.setKey id table key).2 where
  ids := (confined_setKey s id table key).ids
  keys := fun id' => by
    rw [setKey, keysFor_singleton]
    cases hcontains : s.registry.contains id with
    | true =>
      rw [if_pos rfl, Registry.keys_modify s.registry id id' (·.set table key)]
      cases id == id' <;> rfl
    | false =>
      rw [if_neg Bool.false_ne_true]
      cases hfind : s.registry.find? id' with
      | none => rfl
      | some c =>
        -- What is registered is not what is set.
        have hne : (id == id') = false := by
          refine beq_false_of_ne ?_
          rintro rfl
          rw [Registry.contains_eq_true hfind] at hcontains
          cases hcontains
        simp only [hne]
        rfl

/-- **What the verb `key` makes of the key columns.** -/
theorem keys_keyCommand (s : Session γ β σ) {c : Command} (hverb : c.verb = some .key)
    (args : List Params) :
    ((s.keyCommand c args).2.registry.find? c.connection).map (·.keys)
      = (s.registry.find? c.connection).map fun conn =>
          conn.keys.setAll (keysFor c.connection (c.givenKeys args)) := by
  have hput : ∀ (conn : Connection β) (keys : KeyMap), s.registry.find? c.connection = some conn →
      ((s.registry.modify c.connection fun conn => { conn with keys }).find? c.connection).map
        (·.keys) = some keys := by
    intro conn keys hfind
    rw [Registry.keys_modify s.registry c.connection c.connection fun _ => keys, hfind,
      Option.map_some, beq_self_eq_true]
    rfl
  rw [keyCommand, Command.givenKeys, if_pos hverb]
  cases hfind : s.registry.find? c.connection with
  | none => rw [hfind]; rfl
  | some conn =>
    cases args.head?.bind Params.asRecord? with
    | some r =>
      rw [hput conn _ hfind, Option.map_some, keysFor_map]
    | none =>
      rw [hput conn _ hfind, Option.map_some, setAll_clauseKeys]

variable [Gateway γ β] [Store σ]

omit [Store σ] in
/-- A command that was read and gives keys selects no row. -/
theorem tokenize_of_key (s : Session γ β σ) {text : String} {c : Command}
    (hparse : Command.parse text = .ok c) (hverb : c.verb = some .key) :
    s.tokenize text = .ok c := by
  rcases (Command.wellFormed_of_parse hparse).selector with hnone | hrow
  · rw [hverb] at hnone
    cases hnone
  · simp only [tokenize, hparse, Command.scopeRow, hrow]

omit [Gateway γ β] [Store σ] in
/-- What may set no key leaves the key columns of every connection. -/
theorem Frame.keys {id : ConnectionId} {may : Permits} {t : Session γ β σ} (h : Frame id may s t)
    (hmay : ¬may.keys) (id' : ConnectionId) :
    (t.registry.find? id').map (·.keys) = (s.registry.find? id').map (·.keys) := by
  cases hfind : s.registry.find? id' with
  | none =>
    have hcontains := Registry.contains_congr h.registry.ids id'
    rw [Registry.find?_eq_none (hcontains.trans (Registry.contains_eq_false hfind))]
  | some c =>
    by_cases hid : id' = id
    · subst hid
      obtain ⟨d, hd, -, hkeys⟩ := h.connection c hfind
      rw [hd, Option.map_some, Option.map_some, hkeys hmay]
    · rw [h.registry.others id' hid, hfind]

/-- **A call gives its keys.** -/
theorem givesKeys_exec (s : Session γ β σ) (call : Call) :
    GivesKeys call.givenKeys s (s.exec call).2 := by
  cases hparse : Command.parse call.command with
  | error e =>
    rw [Call.givenKeys, hparse, exec, tokenize, hparse]
    exact givesKeys_nil rfl
  | ok c =>
    have hframe := frame_exec s hparse
    have hgiven : call.givenKeys = c.givenKeys call.args := by rw [Call.givenKeys, hparse]
    refine ⟨hframe.registry.ids, fun id => ?_⟩
    rw [hgiven]
    by_cases hverb : c.verb = some .key
    · by_cases hid : id = c.connection
      · rw [(exec_of_tokenize s (tokenize_of_key s hparse hverb)).1, runCommand, hverb, hid]
        exact keys_keyCommand s hverb call.args
      · have hnone : keysFor id (c.givenKeys call.args) = [] := by
          refine keysFor_eq_nil fun g hg => ?_
          rw [Command.connection_of_mem_givenKeys hg]
          exact Ne.symm hid
        rw [hframe.registry.others id hid, hnone]
        rfl
    · rw [hframe.keys hverb id, Command.givenKeys, if_neg hverb]
      rfl

/-! ## Runs -/

/-- **The keys that a run gives** to the connections that it finds registered, the oldest first. -/
def keysGiven (s : Session γ β σ) : List (Move γ σ) → List GivenKey
  | [] => []
  | move :: moves =>
    move.givenKeys.filter (fun g => s.registry.contains g.connection)
      ++ (s.moved move).keysGiven moves

/-- **The key columns are what was given**, from an empty map on, and only what is registered has
been given any. -/
structure KeysFollow (s : Session γ β σ) (given : List GivenKey) : Prop where
  ascending : s.registry.Ascending
  keys : ∀ id c, s.registry.find? id = some c → c.keys = ({} : KeyMap).setAll (keysFor id given)
  registered : ∀ g ∈ given, s.registry.contains g.connection = true

omit [Gateway γ β] [Store σ] in
/-- Giving keys keeps it so. -/
theorem KeysFollow.givesKeys {given news : List GivenKey} {t : Session γ β σ}
    (h : KeysFollow s given) (hgives : GivesKeys news s t) :
    KeysFollow t (given ++ news.filter fun g => s.registry.contains g.connection) where
  ascending := h.ascending.of_ids hgives.ids
  keys := fun id d hd => by
    have hkeys := hgives.keys id
    rw [hd, Option.map_some] at hkeys
    obtain ⟨c, hc, hkeys⟩ := Option.map_eq_some_iff.mp hkeys.symm
    rw [keysFor_append, KeyMap.setAll_append, ← h.keys id c hc,
      keysFor_filter (Registry.contains_eq_true hc), hkeys]
  registered := fun g hg => by
    rw [Registry.contains_congr hgives.ids]
    rcases List.mem_append.mp hg with hg | hg
    · exact h.registered g hg
    · exact (List.mem_filter.mp hg).2

omit [Gateway γ β] [Store σ] in
/-- So does registering: a connection starts with an empty map. -/
theorem KeysFollow.register {given : List GivenKey} (h : KeysFollow s given)
    (config : ConnectionConfig) : KeysFollow (s.register config).2 given := by
  rw [Session.register]
  split
  · rename_i new events r' hregister
    refine ⟨h.ascending.register hregister, fun id c hc => ?_, fun g hg => ?_⟩
    · rcases h.ascending.old_or_new_of_register hregister hc with hold | ⟨hnew, hkeys⟩
      · exact h.keys id c hold
      · have hnone : keysFor id given = [] := by
          refine keysFor_eq_nil ?_
          rintro g hg rfl
          exact Bool.false_ne_true (hnew.symm.trans (h.registered g hg))
        rw [hkeys, hnone]
        rfl
    · rw [Registry.contains, h.ascending.find?_register hregister, Option.isSome_or]
      exact Bool.or_eq_true_iff.mpr (.inl (h.registered g hg))
  · exact h

/-- **One move gives its keys.** -/
theorem KeysFollow.moved {given : List GivenKey} (h : KeysFollow s given) (move : Move γ σ) :
    KeysFollow (s.moved move)
      (given ++ move.givenKeys.filter fun g => s.registry.contains g.connection) := by
  cases move with
  | exec call => exact h.givesKeys (givesKeys_exec s call)
  | register config =>
    have hnone : (Move.register config : Move γ σ).givenKeys = [] := rfl
    rw [hnone, List.filter_nil, List.append_nil]
    exact h.register config
  | setKey id table key => exact h.givesKeys (givesKeys_setKey s id table key)
  | setPaging | setCache | setGateway => exact h.givesKeys (givesKeys_nil rfl)

/-- **A run gives its keys.** -/
theorem KeysFollow.ran {given : List GivenKey} (h : KeysFollow s given) (moves : List (Move γ σ)) :
    KeysFollow (s.ran moves) (given ++ s.keysGiven moves) := by
  induction moves generalizing s given with
  | nil =>
    rw [keysGiven, List.append_nil]
    exact h
  | cons move moves ih =>
    rw [keysGiven, ← List.append_assoc]
    exact ih (h.moved move)

/-! ## Selecting a row -/

omit [Gateway γ β] [Store σ] in
theorem keysFollow_nil (hempty : s.registry.connections = []) : KeysFollow s [] where
  ascending := Registry.ascending_of_eq_nil hempty
  keys := fun id c hc => by
    rw [Registry.find?, hempty] at hc
    cases hc
  registered := nofun

/-- The key columns of a registered connection, after a run. -/
theorem get_keysOf_ran (hempty : s.registry.connections = []) (moves : List (Move γ σ))
    {id : ConnectionId} (hid : (s.ran moves).registry.contains id = true) (table : String) :
    ((s.ran moves).keysOf id).get table = keyAfter (s.keysGiven moves) id table := by
  have hfollow := (keysFollow_nil hempty).ran moves
  obtain ⟨c, hc⟩ := Option.isSome_iff_exists.mp hid
  rw [keysOf, hc]
  change c.keys.get table = _
  rw [hfollow.keys id c hc, KeyMap.get_setAll_keysFor, List.nil_append]

/-- A command that selects a row, after a run. -/
theorem tokenize_ran (hempty : s.registry.connections = []) (moves : List (Move γ σ))
    {text : String} {c : Command} {row : String} (hparse : Command.parse text = .ok c)
    (hrow : c.rowId = some row) (htable : c.table ≠ "")
    (hregistered : (s.ran moves).registry.contains c.connection = true) :
    (s.ran moves).tokenize text
      = .ok (c.scopeToRow (keyAfter (s.keysGiven moves) c.connection c.table)
          (Gateway.quote (s.ran moves).gateway row)) := by
  have hne : c.table.isEmpty = false := String.isEmpty_eq_false_iff.mpr htable
  rw [← get_keysOf_ran hempty moves hregistered]
  simp only [tokenize, hparse, Command.scopeRow, hrow, hne]
  rfl

/-- **A row is selected by the key that was given last.**  After every run of a session that starts
without connections, a command that selects a row of a table on a registered connection has a clause
that begins with WHERE, the key column, and the row's id as the gateway quotes it.  The key column is
the last that was given for this table on this connection and is not blank, trimmed, or else `id`.
No other key plays a part: runs that give the same ones that count select alike. -/
theorem row_selected_by_last_key (s : Session γ β σ) (hempty : s.registry.connections = [])
    (moves : List (Move γ σ)) (text : String) (c : Command) (row : String)
    (hparse : Command.parse text = .ok c) (hrow : c.rowId = some row) (htable : c.table ≠ "")
    (hregistered : (s.ran moves).registry.contains c.connection = true) :
    (∃ rest, (s.ran moves).tokenize text = .ok { c with
      clause := "WHERE " ++ (keyAfter (s.keysGiven moves) c.connection c.table ++ "=" ++
        Gateway.quote (s.ran moves).gateway row) ++ rest }) ∧
    ∀ (t : Session γ β σ) (moves' : List (Move γ σ)), t.registry.connections = [] →
      (t.ran moves').registry.contains c.connection = true →
      (t.keysGiven moves').filter (·.counts c.connection c.table)
        = (s.keysGiven moves).filter (·.counts c.connection c.table) →
      Gateway.quote (t.ran moves').gateway row = Gateway.quote (s.ran moves).gateway row →
      (t.ran moves').tokenize text = (s.ran moves).tokenize text := by
  have htokenize := tokenize_ran hempty moves hparse hrow htable hregistered
  refine ⟨?_, fun t moves' ht hcontains hcount hquote => ?_⟩
  · obtain ⟨rest, hrest⟩ := Command.scopedClause_eq_append
      (keyAfter (s.keysGiven moves) c.connection c.table ++ "=" ++
        Gateway.quote (s.ran moves).gateway row) c.clause
    exact ⟨rest, by rw [htokenize, Command.scopeToRow, hrest]⟩
  · rw [tokenize_ran ht moves' hparse hrow htable hcontains, htokenize, hquote, keyAfter, hcount,
      ← keyAfter]

/-- Keys for a table come by a clause and by a record; the record leaves the clause aside, and what is
given blank, for another table or on another connection counts for nothing. -/
theorem row_selected_by_last_key_uid :
    let config : ConnectionConfig := { host := "h", database := "d", user := "u", password := "" }
    let s : Session Reluctant Unit MemoryStore := { gateway := ⟨0⟩ }
    let moves : List (Move Reluctant MemoryStore) :=
      [.register config, .register config, .exec { command := "users:key user_id" },
        .exec { command := "users:key other",
                args := [.named (.ofList [("users", .text " uid "), ("posts", .int 5)])] },
        .setKey 1 "users" " ", .setKey 2 "users" "no", .exec { command := "[2]users:key no" }]
    let fewer : List (Move Reluctant MemoryStore) :=
      [.register config, .setKey 1 "users" "user_id", .setKey 1 "users" " uid "]
    let c : Command :=
      { table := "users", columns := .named ["name"], rowId := some "7", options := ["first"],
        clause := "WHERE active = 1" }
    (∃ rest, (s.ran moves).tokenize "users(name).7/first WHERE active = 1"
        = .ok { c with clause := "WHERE uid=7" ++ rest }) ∧
      (s.ran fewer).tokenize "users(name).7/first WHERE active = 1"
        = (s.ran moves).tokenize "users(name).7/first WHERE active = 1" := by
  intro config s moves fewer c
  have hkey : keyAfter (s.keysGiven moves) c.connection c.table = "uid" := by decide +kernel
  obtain ⟨⟨rest, hrest⟩, hfewer⟩ := row_selected_by_last_key s rfl moves
    "users(name).7/first WHERE active = 1" c "7" (by decide +kernel) rfl (by decide)
    (by decide +kernel)
  refine ⟨⟨rest, ?_⟩, hfewer s fewer rfl (by decide +kernel) (by decide +kernel) rfl⟩
  rw [hrest, hkey]
  rfl

end Session

end SqlShorthand
