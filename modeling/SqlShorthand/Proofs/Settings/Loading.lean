import SqlShorthand.Settings.Apply
import SqlShorthand.Proofs.Registry.Clashes
import SqlShorthand.Proofs.Session.Registering

/-!
# Proofs/Settings/Loading — which settings load, and in which orders

A settings file lists connections, and these are registered in turn.  One without an id gets the
least that is free at its time, and nobody keeps an id free for a connection that comes later.  So
what can stop the file, if each connection by itself is in order and no id stands twice, is an id
that was given away before its own connection comes (`Registry.Clash`).

`Loaded` is what holds after any of the connections are in: the requests so far were met
(`Registry.Assigned`), each connection has what its entry says, and nothing has clashed.  The next
one keeps it so or is a clash (`Loaded.registerEntry`), and by induction the rest does
(`Loaded.registerAll`).
-/

namespace SqlShorthand

/-! ## Key columns by ascending table -/

namespace KeyMap

/-- The key columns that count: those that are not blank, trimmed. -/
def kept (pairs : List (String × String)) : List (String × String) :=
  (pairs.filter fun p => !Text.allBlank p.2).map fun p => (p.1, Text.trimmed p.2)

/-- A name after all others goes last. -/
theorem insertSorted_of_forall_lt {table : String} (key : String)
    {entries : List (String × String)} (h : ∀ p ∈ entries, p.1 < table) :
    insertSorted table key entries = entries ++ [(table, key)] := by
  induction entries with
  | nil => rfl
  | cons p rest ih =>
    have hlt : p.1 < table := h p List.mem_cons_self
    rw [insertSorted, if_neg (by simpa using hlt.ne), if_neg (lt_asymm hlt),
      ih fun q hq => h q (List.mem_cons_of_mem p hq), List.cons_append]

/-- **Key columns that are set by ascending table stand as they were set.** -/
theorem entries_setAll (m : KeyMap) {pairs : List (String × String)}
    (hpairs : pairs.Pairwise fun p q => p.1 < q.1)
    (hm : ∀ p ∈ m.entries, ∀ q ∈ pairs, p.1 < q.1) :
    (m.setAll pairs).entries = m.entries ++ kept pairs := by
  induction pairs generalizing m with
  | nil => exact (List.append_nil _).symm
  | cons q pairs ih =>
    obtain ⟨hfirst, hrest⟩ := List.pairwise_cons.mp hpairs
    have hm' : ∀ p ∈ m.entries, ∀ q ∈ pairs, p.1 < q.1 := fun p hp q' hq =>
      hm p hp q' (List.mem_cons_of_mem q hq)
    change ((m.set q.1 q.2).setAll pairs).entries = _
    rw [set, kept, List.filter_cons]
    cases hblank : Text.allBlank q.2 with
    | true => exact ih m hrest hm'
    | false =>
      have hlast := insertSorted_of_forall_lt (Text.trimmed q.2) fun p hp =>
        hm p hp q List.mem_cons_self
      refine (ih _ hrest fun p hp => ?_).trans ?_
      · rcases List.mem_append.mp (hlast ▸ hp) with hp | hp
        · exact hm' p hp
        · rw [List.mem_singleton.mp hp]
          exact hfirst
      · rw [if_neg Bool.false_ne_true, hlast, List.append_assoc]
        rfl

end KeyMap

/-! ## Entries -/

namespace ConnectionEntry

/-- The id that an entry asks for. -/
def askedId (e : ConnectionEntry) : Option ConnectionId := e.id.bind idOf?

/-- **An entry that is in order by itself.** -/
@[mk_iff]
structure Loadable (e : ConnectionEntry) : Prop where
  converts : e.toConfig.isOk = true
  host : Text.allBlank e.host = false
  database : Text.allBlank e.database = false
  user : Text.allBlank e.user = false
  /-- Tables ascend, so none stands twice. -/
  keys : e.keys.Pairwise fun p q => p.1 < q.1

instance (e : ConnectionEntry) : Decidable e.Loadable := decidable_of_iff' _ (loadable_iff e)

theorem askedId_eq {e : ConnectionEntry} {id : Option ConnectionId}
    (h : e.connectionId = .ok id) : e.askedId = id := by
  rw [connectionId] at h
  rw [askedId]
  cases hid : e.id with
  | none =>
    rw [hid] at h
    exact Except.ok.inj h
  | some v =>
    rw [hid] at h
    rw [Option.bind_some]
    cases hv : idOf? v with
    | some id => simp only [hv] at h; exact Except.ok.inj h
    | none => simp only [hv] at h; cases h

/-- An entry that is in order has a complete configuration, with the id that it asks for. -/
theorem Loadable.exists_config {e : ConnectionEntry} (h : e.Loadable) :
    ∃ config, e.toConfig = .ok config ∧ config.id = e.askedId ∧ config.isComplete = true := by
  have hconverts := h.converts
  rw [toConfig] at hconverts ⊢
  cases hid : e.connectionId with
  | error err => rw [hid] at hconverts; cases hconverts
  | ok id =>
    refine ⟨_, rfl, (askedId_eq hid).symm, ?_⟩
    simp [ConnectionConfig.isComplete, h.host, h.database, h.user]

end ConnectionEntry

/-! ## One entry

An entry is registered, and then its key columns are set; neither touches the connections before
it. -/

/-- Requests stay met where the ids and the last choice stay. -/
theorem Registry.Confined.assigned {β : Type} {id : ConnectionId} {r r' : Registry β}
    {asked : List (Option ConnectionId)} {given : List ConnectionId} (h : Confined id r r')
    (hr : r.Assigned asked given) : r'.Assigned asked given where
  numbered := h.numbered hr.numbered
  nodup := hr.nodup
  mem_iff := fun id => by rw [contains_congr h.ids, hr.mem_iff]
  meets := by rw [h.lastAuto]; exact hr.meets
  taken_iff := fun n hn => by rw [contains_congr h.ids, hr.taken_iff n hn]

namespace Session

variable {γ β σ : Type} {s s' : Session γ β σ} {e : ConnectionEntry}
  {entries rest : List ConnectionEntry} {ids : List ConnectionId}

/-- **A connection has what its entry says.** -/
structure Entered (s : Session γ β σ) (e : ConnectionEntry) (id : ConnectionId) : Prop where
  asked : ∀ n, e.askedId = some n → id = n
  found : ∃ c, s.registry.find? id = some c ∧ e.toConfig = .ok c.config ∧
    c.keys.entries = KeyMap.kept e.keys

/-- **A session after entries were registered** under these ids. -/
structure Loaded (entries : List ConnectionEntry) (ids : List ConnectionId)
    (s : Session γ β σ) : Prop where
  assigned : s.registry.Assigned (entries.map (·.askedId)) ids
  entered : List.Forall₂ s.Entered entries ids
  unclashed : ∀ n, ¬Registry.Clash (entries.map (·.askedId)) n

theorem find?_setKeys (s : Session γ β σ) (id : ConnectionId) (keys : List (String × String)) :
    (s.setKeys id keys).registry.find? id
      = (s.registry.find? id).map fun c => { c with keys := c.keys.setAll keys } :=
  Registry.find?_modify_self s.registry fun _ => rfl

theorem confined_setKeys (s : Session γ β σ) (id : ConnectionId) (keys : List (String × String)) :
    Registry.Confined id s.registry (s.setKeys id keys).registry :=
  Registry.confined_modify s.registry id fun _ => rfl

theorem loaded_nil (h : s.registry = {}) : Loaded [] [] s where
  assigned := h ▸ .empty
  entered := .nil
  unclashed := Registry.not_clash_nil

theorem Loaded.congr (h : Loaded entries ids s) (hregistry : s'.registry = s.registry) :
    Loaded entries ids s' where
  assigned := hregistry ▸ h.assigned
  entered := h.entered.imp fun _ _ hentered => ⟨hentered.asked, hregistry ▸ hentered.found⟩
  unclashed := h.unclashed

section Step

variable {config : ConnectionConfig} {id : ConnectionId}

/-- The new connection has what its entry says. -/
theorem entered_register (h : s.registry.Numbered) (he : e.Loadable)
    (hconfig : e.toConfig = .ok config) (hid : config.id = e.askedId)
    (hfree : s.registry.contains id = false) (hok : (s.register config).1 = .ok id) :
    ((s.register config).2.setKeys id e.keys).Entered e id := by
  obtain ⟨events, hregister⟩ := registry_of_register hok
  refine ⟨fun n hn => (Registry.given_of_asked hregister (hid.trans hn)).1, ?_⟩
  have hfind := h.ascending.find?_register hregister id
  rw [Registry.find?_eq_none hfree, Option.none_or, beq_self_eq_true, if_pos rfl] at hfind
  refine ⟨_, by rw [find?_setKeys, hfind, Option.map_some], ?_, ?_⟩
  · rw [hconfig, Registry.fresh, Connection.pushLog_config]
  · rw [Registry.fresh, Connection.pushLog_keys]
    exact KeyMap.entries_setAll {} he.keys fun p hp => absurd hp List.not_mem_nil

/-- The others keep what they have. -/
theorem Entered.register {e' : ConnectionEntry} {id' : ConnectionId} (h : s.Entered e' id')
    (hr : s.registry.Numbered) (hfree : s.registry.contains id = false)
    (hok : (s.register config).1 = .ok id) (keys : List (String × String)) :
    ((s.register config).2.setKeys id keys).Entered e' id' := by
  obtain ⟨events, hregister⟩ := registry_of_register hok
  obtain ⟨c, hc, hentry⟩ := h.found
  have hne : id' ≠ id := by
    rintro rfl
    cases (Registry.contains_eq_true hc).symm.trans hfree
  refine ⟨h.asked, c, ?_, hentry⟩
  rw [← hc, ← (hr.ascending.others_of_register hregister).2 id' hne]
  exact (confined_setKeys _ id keys).others id' hne

/-- **One more entry that is registered.** -/
theorem Loaded.register (h : Loaded entries ids s) (hfew : ids.length + 2 < UInt32.size)
    (he : e.Loadable) (hconfig : e.toConfig = .ok config) (hid : config.id = e.askedId)
    (hdistinct : ∀ n, e.askedId = some n → some n ∉ entries.map (·.askedId))
    (hok : (s.register config).1 = .ok id) :
    Loaded (entries ++ [e]) (ids ++ [id]) ((s.register config).2.setKeys id e.keys) := by
  obtain ⟨events, hregister⟩ := registry_of_register hok
  have hassigned := h.assigned.register hfew hregister
  have hfree : s.registry.contains id = false := by
    rw [Bool.eq_false_iff, ne_eq, h.assigned.mem_iff]
    intro hmem
    exact List.disjoint_of_nodup_append hassigned.nodup hmem (List.mem_singleton_self id)
  refine ⟨?_, ?_, fun n => ?_⟩
  · rw [List.map_append, List.map_singleton, ← hid]
    exact (confined_setKeys _ id e.keys).assigned hassigned
  · refine List.rel_append (h.entered.imp fun _ _ hentered => ?_) (.cons ?_ .nil)
    · exact hentered.register h.assigned.numbered hfree hok e.keys
    · exact entered_register h.assigned.numbered he hconfig hid hfree hok
  · rw [List.map_append, List.map_singleton, Registry.clash_append_singleton]
    rintro (hclash | ⟨hn, haway⟩)
    · exact h.unclashed n hclash
    · -- An id that was given away is taken, so it could not be given again.
      have htaken := (h.assigned.taken_iff n (hdistinct n hn)).mpr haway
      cases htaken.symm.trans (Registry.given_of_asked hregister (hid.trans hn)).2

/-- **One more entry is registered, or clashes.** -/
theorem Loaded.registerEntry (h : Loaded entries ids s) (hfew : ids.length + 2 < UInt32.size)
    (he : e.Loadable) (hdistinct : ∀ n, e.askedId = some n → some n ∉ entries.map (·.askedId)) :
    (∃ id s', s.registerEntry e = (.ok id, s') ∧ Loaded (entries ++ [e]) (ids ++ [id]) s') ∨
      ∃ n s', s.registerEntry e = (.error (.duplicateConnection n), s') ∧
        Registry.Clash ((entries ++ [e]).map (·.askedId)) n := by
  obtain ⟨config, hconfig, hid, hcomplete⟩ := he.exists_config
  rw [Session.registerEntry, hconfig]
  dsimp only
  split
  · rename_i err s' hregister
    have hrefused := register_error_iff.mp (congrArg Prod.fst hregister)
    have hcases := Registry.registering_register s.registry config
    rw [hrefused] at hcases
    cases hcases with
    | incomplete hincomplete => cases hincomplete.symm.trans hcomplete
    | duplicate n _ hn htaken =>
      rw [hid] at hn
      refine .inr ⟨n, s', rfl, ?_⟩
      rw [List.map_append, List.map_singleton, Registry.clash_append_singleton]
      exact .inr ⟨hn, (h.assigned.taken_iff n (hdistinct n hn)).mp htaken⟩
  · rename_i id s' hregister
    have hok : (s.register config).1 = .ok id := by rw [hregister]
    refine .inl ⟨id, _, rfl, ?_⟩
    have hloaded := h.register hfew he hconfig hid hdistinct hok
    rwa [hregister] at hloaded

end Step

/-! ## The rest of the entries -/

/-- An id that is asked for by an entry is asked for by none before it. -/
theorem notMem_askedId (h : ((entries ++ e :: rest).filterMap (·.askedId)).Nodup) (n : ConnectionId)
    (hn : e.askedId = some n) : some n ∉ entries.map (·.askedId) := by
  rw [List.filterMap_append, List.filterMap_cons_some hn] at h
  rw [List.mem_map]
  rintro ⟨e', he', hn'⟩
  exact List.disjoint_of_nodup_append h (List.mem_filterMap.mpr ⟨e', he', hn'⟩) List.mem_cons_self

/-- **Entries are registered in turn, up to the first that clashes.** -/
theorem Loaded.registerAll (h : Loaded entries ids s) (hrest : ∀ e ∈ rest, e.Loadable)
    (hdistinct : ((entries ++ rest).filterMap (·.askedId)).Nodup)
    (hfew : ids.length + rest.length + 1 < UInt32.size) :
    (∃ ids' s', s.registerAll rest = (.ok ids', s') ∧ Loaded (entries ++ rest) (ids ++ ids') s') ∨
      ∃ n s', s.registerAll rest = (.error (.duplicateConnection n), s') ∧
        Registry.Clash ((entries ++ rest).map (·.askedId)) n := by
  -- On the entries that are left; those that are in grow at their end, and `Loaded` is carried on.
  induction rest generalizing entries ids s with
  | nil => exact .inl ⟨[], s, rfl, by rwa [List.append_nil, List.append_nil]⟩
  | cons e rest ih =>
    rw [List.length_cons] at hfew
    rw [Session.registerAll]
    rcases h.registerEntry (by omega) (hrest e List.mem_cons_self) (notMem_askedId hdistinct) with
      ⟨id, s', hentry, hloaded⟩ | ⟨n, s', hentry, hclash⟩
    · rw [List.append_cons] at hdistinct ⊢
      rw [hentry]
      rcases ih hloaded (fun e' he' => hrest e' (List.mem_cons_of_mem e he')) hdistinct
        (by rw [List.length_append, List.length_singleton]; omega) with
        ⟨ids', s'', hall, hloaded'⟩ | ⟨n, s'', hall, hclash⟩
      · refine .inl ⟨id :: ids', s'', by simp only [hall], ?_⟩
        rwa [List.append_cons ids]
      · exact .inr ⟨n, s'', by simp only [hall], hclash⟩
    · refine .inr ⟨n, s', by rw [hentry], ?_⟩
      rw [List.append_cons, List.map_append]
      exact hclash.append _

end Session

/-! ## Settings -/

namespace Settings

variable {γ β σ : Type} {settings : Settings} {s : Session γ β σ}

/-- **Settings that are in order**: each entry by itself is, no id is asked for twice, there are
fewer entries than ids, and the cache's expiry can be read. -/
@[mk_iff]
structure Loadable (settings : Settings) : Prop where
  entries : ∀ e ∈ settings.connections, e.Loadable
  distinct : (settings.connections.filterMap (·.askedId)).Nodup
  few : settings.connections.length < UInt32.size - 1
  cache : ∀ c ∈ settings.cache, ∀ text ∈ c.expire, (Expiry.parse text).isOk = true

instance (settings : Settings) : Decidable settings.Loadable :=
  decidable_of_iff' _ (loadable_iff settings)

/-- The order of the entries does not matter for it. -/
theorem Loadable.perm (h : settings.Loadable) {connections : List ConnectionEntry}
    (hperm : connections.Perm settings.connections) : { settings with connections }.Loadable where
  entries := fun e he => h.entries e (hperm.mem_iff.mp he)
  distinct := (hperm.filterMap _).nodup_iff.mpr h.distinct
  few := hperm.length_eq ▸ h.few
  cache := h.cache

/-- A cache whose expiry can be read is built, and changes no connection. -/
theorem Loadable.applySections (h : settings.Loadable) (newCache : Option String → Cache σ)
    (s : Session γ β σ) :
    ∃ s', settings.applySections newCache s = (.ok (), s') ∧ s'.registry = s.registry := by
  have hbuild : ∃ cache, settings.buildCache newCache = .ok cache := by
    rw [buildCache]
    cases hcache : settings.cache with
    | none => exact ⟨none, rfl⟩
    | some c =>
      dsimp only
      rw [CacheSection.build]
      cases hexpire : c.expire with
      | none => exact ⟨_, rfl⟩
      | some text =>
        have hparse := h.cache c hcache text hexpire
        cases hexpiry : Expiry.parse text with
        | error err => rw [hexpiry] at hparse; cases hparse
        | ok expiry => exact ⟨_, by simp only [hexpiry]; rfl⟩
  obtain ⟨cache, hcache⟩ := hbuild
  rw [Settings.applySections, hcache]
  exact ⟨_, rfl, rfl⟩

/-- **Settings that are in order load, or clash.** -/
theorem Loadable.apply (h : settings.Loadable) (newCache : Option String → Cache σ)
    (hempty : s.registry = {}) :
    (∃ ids s', settings.apply newCache s = (.ok ids, s') ∧
        Session.Loaded settings.connections ids s') ∨
      ∃ n s', settings.apply newCache s = (.error (.duplicateConnection n), s') ∧
        Registry.Clash (settings.connections.map (·.askedId)) n := by
  have hfew : ([] : List ConnectionId).length + settings.connections.length + 1 < UInt32.size := by
    have := h.few
    rw [List.length_nil]
    omega
  rw [Settings.apply]
  rcases (Session.loaded_nil hempty).registerAll h.entries h.distinct hfew with
    ⟨ids, s', hall, hloaded⟩ | ⟨n, s', hall, hclash⟩
  · obtain ⟨s'', hsections, hregistry⟩ := h.applySections newCache s'
    rw [hall]
    exact .inl ⟨ids, s'', by simp only [hsections], hloaded.congr hregistry⟩
  · rw [hall]
    exact .inr ⟨n, s', rfl, hclash⟩

/-- Settings that are in order load exactly if nothing clashes. -/
theorem Loadable.loads_iff (h : settings.Loadable) (newCache : Option String → Cache σ)
    (hempty : s.registry = {}) :
    (∃ ids, (settings.apply newCache s).1 = .ok ids) ↔
      ∀ n, ¬Registry.Clash (settings.connections.map (·.askedId)) n := by
  rcases h.apply newCache hempty with ⟨ids, s', happly, hloaded⟩ | ⟨n, s', happly, hclash⟩
  · exact iff_of_true ⟨ids, by rw [happly]⟩ hloaded.unclashed
  · refine iff_of_false ?_ fun hnone => hnone n hclash
    rintro ⟨ids, hids⟩
    rw [happly] at hids
    cases hids

/-- An order of the requests is one of the entries. -/
theorem exists_perm_askedId {entries : List ConnectionEntry} {asked : List (Option ConnectionId)}
    (h : asked.Perm (entries.map (·.askedId))) :
    ∃ entries' : List ConnectionEntry,
      entries'.Perm entries ∧ entries'.map (·.askedId) = asked := by
  have hmap : List.Forall₂ (fun request (e : ConnectionEntry) => e.askedId = request)
      (entries.map (·.askedId)) entries :=
    List.forall₂_map_left_iff.mpr (List.forall₂_same.mpr fun _ _ => rfl)
  obtain ⟨entries', hasked, hperm⟩ := List.perm_comp_forall₂ h hmap
  refine ⟨entries', hperm, ?_⟩
  rw [← List.forall₂_eq_eq_eq]
  exact List.forall₂_map_left_iff.mpr hasked.flip

/-- **What becomes of settings that are in order.** -/
structure Loads (settings : Settings) (newCache : Option String → Cache σ) (s : Session γ β σ) :
    Prop where
  /-- They load exactly if no id is given away before it is asked for. -/
  ok_iff : (∃ ids, (settings.apply newCache s).1 = .ok ids) ↔
    ∀ n, ¬Registry.Clash (settings.connections.map (·.askedId)) n
  /-- Each entry has an id of its own then, the one that it asks for if it does, and its
  connection the key columns that count… -/
  entered : ∀ ids, (settings.apply newCache s).1 = .ok ids →
    ids.Nodup ∧ List.Forall₂ (settings.apply newCache s).2.Entered settings.connections ids
  /-- …and if they do not load, it is for an id that was given away. -/
  refused : ∀ err, (settings.apply newCache s).1 = .error err →
    ∃ n, err = .duplicateConnection n ∧
      Registry.Clash (settings.connections.map (·.askedId)) n
  /-- **Every order of the entries loads** exactly if all ask for an id, or each positive id that is
  asked for exceeds the number of entries that ask for none or for a positive one below it. -/
  orders : (∀ connections, connections.Perm settings.connections →
      ∃ ids, ({ settings with connections }.apply newCache s).1 = .ok ids) ↔
    none ∉ settings.connections.map (·.askedId) ∨
      ∀ n, 0 < n → some n ∈ settings.connections.map (·.askedId) →
        (settings.connections.map (·.askedId)).countP (Registry.asksBelow n) < n.toNat

/-- Every order loads exactly if no order of the requests clashes. -/
theorem Loadable.orders_iff (h : settings.Loadable) (newCache : Option String → Cache σ)
    (hempty : s.registry = {}) :
    (∀ connections, connections.Perm settings.connections →
        ∃ ids, ({ settings with connections }.apply newCache s).1 = .ok ids) ↔
      ¬∃ asked, asked.Perm (settings.connections.map (·.askedId)) ∧
        ∃ n, Registry.Clash asked n := by
  constructor
  · rintro hall ⟨asked, hperm, n, hclash⟩
    obtain ⟨connections, hconnections, rfl⟩ := exists_perm_askedId hperm
    have hloads := hall connections hconnections
    rw [(h.perm hconnections).loads_iff newCache hempty] at hloads
    exact hloads n hclash
  · intro hnone connections hperm
    rw [(h.perm hperm).loads_iff newCache hempty]
    exact fun n hclash => hnone ⟨_, hperm.map _, n, hclash⟩

/-- **Settings load unless an id is given away before it is asked for.** -/
theorem load_unless_id_given_away (settings : Settings) (newCache : Option String → Cache σ)
    (s : Session γ β σ) (hempty : s.registry = {}) (h : settings.Loadable) :
    settings.Loads newCache s where
  ok_iff := h.loads_iff newCache hempty
  entered := fun ids hids => by
    rcases h.apply newCache hempty with ⟨ids', s', happly, hloaded⟩ | ⟨n, s', happly, -⟩
    · rw [happly] at hids ⊢
      obtain rfl := Except.ok.inj hids
      exact ⟨hloaded.assigned.nodup, hloaded.entered⟩
    · rw [happly] at hids
      cases hids
  refused := fun err herr => by
    rcases h.apply newCache hempty with ⟨ids, s', happly, -⟩ | ⟨n, s', happly, hclash⟩
    · rw [happly] at herr
      cases herr
    · rw [happly] at herr
      obtain rfl := Except.error.inj herr
      exact ⟨n, rfl, hclash⟩
  orders := by
    rw [h.orders_iff newCache hempty, Registry.exists_perm_clash_iff, not_and_or]
    simp only [not_exists, not_and, Nat.not_le]

/-- The second connection and the third ask for no id and get 1 and 3, and of the key columns of the
first the blank one is left out. -/
theorem load_unless_id_given_away_two :
    let entry : ConnectionEntry := { host := "h", database := "d", user := "u" }
    let settings : Settings :=
      { connections := [{ entry with id := some (.int 2), keys := [("a", " uid "), ("b", " ")] },
          entry, entry]
        cache := some { expire := some "2 hours" } }
    let newCache : Option String → Cache MemoryStore := fun _ => { store := {}, clock := .fixed 0 }
    let s : Session Session.Reluctant Unit MemoryStore := { gateway := ⟨0⟩ }
    settings.Loadable ∧ (settings.apply newCache s).1 = .ok [2, 1, 3] ∧
      ∃ c, (settings.apply newCache s).2.registry.find? 2 = some c ∧
        c.keys.entries = [("a", "uid")] := by
  intro entry settings newCache s
  have hloadable : settings.Loadable := by decide +kernel
  have hok : (settings.apply newCache s).1 = .ok [2, 1, 3] := by decide +kernel
  obtain ⟨-, hentered⟩ :=
    (load_unless_id_given_away settings newCache s rfl hloadable).entered _ hok
  obtain ⟨c, hc, -, hkeys⟩ := (List.forall₂_cons.mp hentered).1.found
  exact ⟨hloadable, hok, c, hc, hkeys.trans (by decide +kernel)⟩

/-- **The order of the entries matters.**  A connection that asks for no id takes 1 before the one
that asks for it, which is refused then; the other way round both load. -/
theorem order_of_entries_matters :
    let entry : ConnectionEntry := { host := "h", database := "d", user := "u" }
    let settings : Settings := { connections := [entry, { entry with id := some (.int 1) }] }
    let reversed : Settings := { connections := [{ entry with id := some (.int 1) }, entry] }
    let newCache : Option String → Cache MemoryStore := fun _ => { store := {}, clock := .fixed 0 }
    let s : Session Session.Reluctant Unit MemoryStore := { gateway := ⟨0⟩ }
    settings.Loadable ∧ (settings.apply newCache s).1 = .error (.duplicateConnection 1) ∧
      reversed.Loadable ∧ (reversed.apply newCache s).1 = .ok [1, 2] := by
  intro entry settings reversed newCache s
  have hloadable : settings.Loadable := by decide +kernel
  exact ⟨hloadable, by decide +kernel, hloadable.perm (.swap _ _ _), by decide +kernel⟩

end Settings

end SqlShorthand
