import SqlShorthand.Proofs.Cache.Freshness
import SqlShorthand.Proofs.Cache.Runs
import SqlShorthand.Proofs.Session.Caching

/-!
# Proofs/Session/Coherence — an answer from the cache is the latest write

A session over a store in memory is run step by step: calls on any connections, settings of the
cache, direct writes, flushes, and a clock that moves (`Step`).  Beside it runs the history of its
cache (`Change`): what was written directly, what statements fetched after they had asked in vain,
and when everything was forgotten.

* `Tracks` — the store holds, under every key, the latest write since the last flush.  One step
  keeps this (`CacheTracks.after`), so a run does (`CacheTracks.play`).
* `cacheQuery?` — the statement that a call asks the cache for.  Answered from it, the call does
  nothing but log (`Asks.exec_of_answered`); not answered, it leaves the rows that it fetched
  (`Asks.kept`).

Together: whatever a session did before, a call and its cache agree on what was written last
(`play_coherent`).
-/

namespace SqlShorthand

/-! ## The history of a cache -/

/-- A change of what a cache holds. -/
inductive Change where
  | written (key : String) (v : Json) (time : Int)
  | flushed

/-- **The latest write under a key since the last flush**, with its time.  The newest change of a
history stands first. -/
def latest (key : String) : List Change → Option (Int × Json)
  | [] => none
  | .written k v time :: history => if k = key then some (time, v) else latest key history
  | .flushed :: _ => none

namespace Cache

variable (cache : Cache MemoryStore) (key : String)

theorem has_memory :
    cache.has key
      = ((cache.store.get? key).any fun entry => cache.expire.fresh cache.clock.now entry.1,
          cache.reset) := by
  simp only [has, Store.writtenAt]
  cases cache.store.get? key <;> rfl

theorem read_memory :
    cache.read key
      = (match cache.store.get? key with
          | some (_, v) => .ok v
          | none => .error (.cacheRead key), cache) := by
  simp only [read, Store.read]
  cases cache.store.get? key <;> rfl

end Cache

/-- **A cache tracks a history**: it holds the latest writes, and all times can be told. -/
structure Tracks (cache : Cache MemoryStore) (history : List Change) : Prop where
  entries : ∀ key, cache.store.get? key = latest key history
  clock : cache.clock.Tells
  times : ∀ key time v, latest key history = some (time, v) → Clock.earliest ≤ time

namespace Tracks

variable {cache cache' : Cache MemoryStore} {history : List Change}

/-- Settings are no part of the history. -/
theorem congr (h : Tracks cache history) (hstore : cache'.store = cache.store)
    (hclock : cache'.clock = cache.clock) : Tracks cache' history :=
  ⟨hstore ▸ h.entries, hclock ▸ h.clock, h.times⟩

/-- A write is tracked. -/
theorem write (h : Tracks cache history) (key : String) (v : Json)
    (hstore : cache'.store = cache.store.insert key cache.clock.now v)
    (hclock : cache'.clock = cache.clock) :
    Tracks cache' (.written key v cache.clock.now :: history) := by
  refine ⟨fun key' => ?_, hclock ▸ h.clock, fun key' time v' hlatest => ?_⟩
  · rw [hstore, MemoryStore.get?_insert, latest, h.entries key']
  · rw [latest] at hlatest
    split at hlatest
    · cases hlatest
      exact h.clock.earliest_le_now
    · exact h.times key' time v' hlatest

theorem flush (h : Tracks cache history) (hstore : cache'.store = {})
    (hclock : cache'.clock = cache.clock) : Tracks cache' (.flushed :: history) :=
  ⟨fun _ => by rw [hstore]; rfl, hclock ▸ h.clock, fun _ _ _ hlatest => by cases hlatest⟩

end Tracks

namespace Session

variable {γ β σ : Type} [Gateway γ β]

/-! ## Statements that ask the cache first -/

/-- A statement that asks the cache first, and how its outcome is read. -/
structure CacheQuery (β : Type) where
  command : Command
  conn : Connection β
  sql : String
  params : Params
  reading : Reading
  finish : Outcome → Output

/-- What a call gives for rows, decorated as it asks. -/
def CacheQuery.output (q : CacheQuery β) (call : Call) (rows : List Json) : Output :=
  match call.decorator with
  | some d => (q.finish (.rows rows)).decorate d q.command.verb
  | none => q.finish (.rows rows)

/-- **The statement that a call asks the cache for**, if it comes to that: the call can be read, its
course is a statement with the flag CACHE, the connection is registered and the values are not
refused. -/
def cacheQuery? (s : Session γ β σ) (call : Call) : Option (CacheQuery β) :=
  match s.tokenize call.command with
  | .error _ => none
  | .ok command =>
    match s.registry.find? command.connection, s.course command call.args with
    | some conn, .run sql params reading true _ finish =>
      match params.ensureBindable with
      | .ok () => some { command, conn, sql, params, reading, finish }
      | .error _ => none
    | _, _ => none

variable {s t u : Session γ β σ} {call : Call} {q : CacheQuery β}

/-- What there is to such a call. -/
structure Asks (s : Session γ β σ) (call : Call) (q : CacheQuery β) : Prop where
  tokenize : s.tokenize call.command = .ok q.command
  connection : s.registry.find? q.command.connection = some q.conn
  course : ∃ neutral,
    s.course q.command call.args = .run q.sql q.params q.reading true neutral q.finish
  bindable : q.params.ensureBindable = .ok ()

theorem asks_of_cacheQuery? (h : s.cacheQuery? call = some q) : Asks s call q := by
  rw [cacheQuery?] at h
  split at h
  · cases h
  · rename_i command htokenize
    split at h
    · rename_i conn sql params reading neutral finish hconn hcourse
      split at h
      · rename_i hparams
        cases h
        exact ⟨htokenize, hconn, ⟨neutral, hcourse⟩, hparams⟩
      · cases h
    · cases h

variable [Store σ]

/-- **Running the call is dispatching the statement**, where that succeeds. -/
theorem Asks.exec_eq (h : Asks s call q) {rows : List Json}
    (hrun : s.dispatch q.command.connection q.sql q.params q.reading true = (.ok (.rows rows), t)) :
    s.exec call = (.ok (q.output call rows), t) := by
  obtain ⟨neutral, hcourse⟩ := h.course
  have hcommand : s.runCommand q.command call.args = (.ok (q.finish (.rows rows)), t) := by
    rw [runCommand_eq_follow, hcourse, follow, run, hrun]
    rfl
  rw [exec, h.tokenize, CacheQuery.output]
  dsimp only
  rw [hcommand]
  cases call.decorator <;> rfl

theorem Asks.exec_cache (h : Asks s call q) {cache : Cache σ} (hcache : s.cache = some cache) :
    (s.exec call).2.cache
      = some (cacheAfter s.gateway q.conn cache q.sql q.params q.reading) := by
  obtain ⟨neutral, hcourse⟩ := h.course
  rw [(exec_of_tokenize s h.tokenize).1, runCommand_eq_follow, hcourse, follow, orElse_snd,
    run_cache, dispatch_cache h.connection hcache q.sql h.bindable]

/-- **A call that does not ask the cache leaves it alone**, unless its verb is `cache`: then it may
set the expiry of the next query. -/
theorem exec_cache_of_cacheQuery?_eq_none (h : s.cacheQuery? call = none) :
    (s.exec call).2.cache = s.cache ∨
      ∃ c e, s.tokenize call.command = .ok c ∧ c.verb = some .cache ∧
        (s.exec call).2.cache = s.cache.map fun cache => cache.setExpire e := by
  cases htokenize : s.tokenize call.command with
  | error e =>
    rw [exec, htokenize]
    exact .inl rfl
  | ok c =>
    rw [(exec_of_tokenize s htokenize).1, runCommand_eq_follow]
    cases hcourse : s.course c call.args with
    | settled r after =>
      cases settles_course hcourse with
      | refused | unknown | told | keys | paging => exact .inl rfl
      | expiry e cache hverb hcache => exact .inr ⟨c, e, rfl, hverb, by rw [hcache]; rfl⟩
    | run sql params reading useCache neutral finish =>
      rw [follow, orElse_snd, run_cache]
      refine .inl ?_
      cases useCache with
      | false => exact dispatch_cache_false s _ sql params reading
      | true =>
        refine dispatch_cache_of_unreached s _ sql reading true fun conn hconn hparams => ?_
        simp [cacheQuery?, htokenize, hconn, hcourse, hparams] at h
    | runUnlogged stmt => exact .inl (runUnlogged_cache s _ stmt)
    | insertId =>
      rw [follow, insertId, orElse_snd, surface_cache, throughLink_cache]
      exact .inl rfl
    | transact step =>
      rw [follow, transaction, orElse_snd, surface_cache, throughLink_cache]
      exact .inl rfl

/-! ## Answering from the cache does nothing but log -/

/-- **Nothing happened but logging**: the gateway was not asked, and handlers got log lines only. -/
structure OnlyLogged (s t : Session γ β σ) : Prop where
  gateway : t.gateway = s.gateway
  trace : ∃ events, t.trace = s.trace ++ events ∧
    ∀ event ∈ events, ∃ id line, event = .logLine id line

omit [Gateway γ β] [Store σ] in
theorem OnlyLogged.trans (h : OnlyLogged s t) (h' : OnlyLogged t u) : OnlyLogged s u := by
  obtain ⟨events, htrace, hlines⟩ := h.trace
  obtain ⟨events', htrace', hlines'⟩ := h'.trace
  refine ⟨h'.gateway.trans h.gateway, events ++ events', ?_, fun event hevent => ?_⟩
  · rw [htrace', htrace, List.append_assoc]
  · rcases List.mem_append.mp hevent with hevent | hevent
    · exact hlines event hevent
    · exact hlines' event hevent

omit [Gateway γ β] [Store σ] in
theorem onlyLogged_withCache (s : Session γ β σ) (cache : Option (Cache σ)) :
    OnlyLogged s { s with cache } :=
  ⟨rfl, [], (List.append_nil _).symm, fun _ h => absurd h List.not_mem_nil⟩

omit [Gateway γ β] [Store σ] in
theorem onlyLogged_pushLog (s : Session γ β σ) (id : ConnectionId) (line : String) :
    OnlyLogged s (s.pushLog id line) := by
  refine ⟨pushLog_gateway s id line, ?_⟩
  rw [pushLog]
  split
  · rename_i c _
    exact ⟨c.lineEvents line, rfl, fun event h => ⟨c.id, line, Connection.mem_lineEvents h⟩⟩
  · exact ⟨[], (List.append_nil _).symm, fun _ h => absurd h List.not_mem_nil⟩

omit [Gateway γ β] [Store σ] in
theorem onlyLogged_logged (s : Session γ β σ) (id : ConnectionId) (sql : String)
    (params : Params) : OnlyLogged s (s.logged id sql params) := by
  have hquery := onlyLogged_pushLog s id (queryLine sql)
  rw [logged]
  split
  · exact hquery
  · exact hquery.trans (onlyLogged_pushLog _ id _)

omit [Gateway γ β] [Store σ] in
theorem logged_cache (s : Session γ β σ) (id : ConnectionId) (sql : String) (params : Params) :
    (s.logged id sql params).cache = s.cache := by
  rw [logged]
  split
  · exact pushLog_cache s id _
  · rw [pushLog_cache, pushLog_cache]

/-- A statement is answered from the cache, under a key, with these rows. -/
def Answered (s : Session γ β σ) (q : CacheQuery β) (key : String) (rows : List Json) : Prop :=
  (s.lookUp q.conn.id q.sql q.params).1 = .ok (key, some rows)

/-- **A call that is answered from the cache gives the rows it holds, and does nothing but log.** -/
theorem Asks.exec_of_answered (h : Asks s call q) {cache : Cache σ} (hcache : s.cache = some cache)
    {key : String} {rows : List Json} (hrows : s.Answered q key rows) :
    (s.exec call).1 = .ok (q.output call rows) ∧ OnlyLogged s (s.exec call).2 := by
  have hlogged := logged_cache s q.command.connection q.sql q.params
  rw [Answered, Registry.id_of_find? h.connection, lookUp_eq s _ _ _ hcache] at hrows
  injection hrows with hpair
  injection hpair with hkey hfound
  have hdispatch := dispatch_eq_answer h.connection q.sql h.bindable q.reading true
  rw [answer, if_pos rfl, lookUp_eq _ _ _ _ (hlogged.trans hcache), hfound] at hdispatch
  rw [h.exec_eq hdispatch]
  refine ⟨rfl, (onlyLogged_logged s q.command.connection q.sql q.params).trans ?_⟩
  exact (onlyLogged_withCache _ _).trans (onlyLogged_pushLog _ _ _)

/-! ## A store in memory -/

section Memory

variable {s : Session γ β MemoryStore} {cache : Cache MemoryStore}

/-- **Asking the cache**: rows are found if the entry is fresh and holds a list; what was set for
one query is used up, and the entries stay. -/
theorem cachedRows?_memory (cache : Cache MemoryStore) (key : String) :
    cachedRows? cache key =
      (match cache.store.get? key with
        | some (time, .arr rows) =>
          if cache.expire.fresh cache.clock.now time then some rows else none
        | _ => none, cache.reset) := by
  have hstore : cache.reset.store = cache.store := rfl
  simp only [cachedRows?, Cache.has_memory, Cache.read_memory]
  cases hget : cache.store.get? key with
  | none => rfl
  | some entry =>
    obtain ⟨time, v⟩ := entry
    cases hfresh : cache.expire.fresh cache.clock.now time <;> cases v <;>
      simp [hfresh, hstore, hget]

theorem cachedRows?_eq_some {key : String} {rows : List Json} :
    (cachedRows? cache key).1 = some rows ↔
      ∃ time, cache.store.get? key = some (time, .arr rows) ∧
        cache.expire.fresh cache.clock.now time = true := by
  rw [cachedRows?_memory]
  split
  · rename_i time found hget
    rw [hget]
    cases hfresh : cache.expire.fresh cache.clock.now time <;> simp [hfresh]
  · rename_i hnone
    simp only [reduceCtorEq, false_iff]
    rintro ⟨time, hget, -⟩
    exact hnone time rows hget

/-- A statement that asks the cache uses up what was set for one query, and leaves in it the rows
that it fetched after it asked in vain. -/
theorem cacheAfter_memory (g : γ) (c : Connection β) (cache : Cache MemoryStore) (sql : String)
    (params : Params) (reading : Reading) :
    cacheAfter g c cache sql params reading =
      match (cachedRows? cache (cache.keyFor c.id sql params)).1,
          fetchedRows? g c sql params reading with
      | none, some rows => (cache.reset.write (cache.keyFor c.id sql params) (.arr rows)).2
      | _, _ => cache.reset := by
  have hasked : (cachedRows? cache (cache.keyFor c.id sql params)).2 = cache.reset :=
    congrArg Prod.snd (cachedRows?_memory cache _)
  rw [cacheAfter]
  generalize cachedRows? cache (cache.keyFor c.id sql params) = asked at hasked
  obtain ⟨found, after⟩ := asked
  obtain rfl : after = cache.reset := hasked
  cases found <;> cases fetchedRows? g c sql params reading <;> rfl

end Memory

/-! ## Running step by step -/

section Runs

variable {s : Session γ β MemoryStore} {cache : Cache MemoryStore} {history : List Change}

/-- **What a statement puts into the cache**: the rows that it fetched after it asked in vain. -/
def CacheQuery.kept? (q : CacheQuery β) (g : γ) (cache : Cache MemoryStore) : Option Change :=
  let key := cache.keyFor q.conn.id q.sql q.params
  match (cachedRows? cache key).1, fetchedRows? g q.conn q.sql q.params q.reading with
  | none, some rows => some (.written key (.arr rows) cache.clock.now)
  | _, _ => none

/-- Changes the cache, if there is one. -/
def onCache (s : Session γ β MemoryStore) (f : Cache MemoryStore → Cache MemoryStore) :
    Session γ β MemoryStore := { s with cache := s.cache.map f }

/-- A step of a run. -/
inductive Step where
  | exec (call : Call)
  | register (config : ConnectionConfig)
  | setKey (key : String)
  | setLabel (label : String)
  | setExpire (e : Expiry)
  | setExpireGlobal (e : Expiry)
  | has (key : String)
  | write (key : String) (v : Json)
  | flush
  | advance (seconds : UInt64)

/-- The session after a step. -/
def after (s : Session γ β MemoryStore) : Step → Session γ β MemoryStore
  | .exec call => (s.exec call).2
  | .register config => (s.register config).2
  | .setKey key => s.onCache fun c => (c.setKey key).toOption.getD c
  | .setLabel label => s.onCache fun c => c.setLabel label
  | .setExpire e => s.onCache fun c => c.setExpire e
  | .setExpireGlobal e => s.onCache fun c => c.setExpireGlobal e
  | .has key => s.onCache fun c => (c.has key).2
  | .write key v => s.onCache fun c => (c.write key v).2
  | .flush => s.onCache fun c => c.flush.2
  | .advance seconds => s.onCache fun c => { c with clock := c.clock.advance seconds }

/-- What a step changes in the cache. -/
def change? (s : Session γ β MemoryStore) : Step → Option Change
  | .exec call => do (← s.cacheQuery? call).kept? s.gateway (← s.cache)
  | .write key v => s.cache.map fun c => .written key v c.clock.now
  | .flush => some .flushed
  | _ => none

/-- **A run**: the session after some steps, and its cache's history, the newest change first. -/
def play (s : Session γ β MemoryStore) (history : List Change) :
    List Step → Session γ β MemoryStore × List Change
  | [] => (s, history)
  | step :: steps => (s.after step).play ((s.change? step).toList ++ history) steps

/-- A session whose cache tracks a history. -/
def CacheTracks (s : Session γ β MemoryStore) (history : List Change) : Prop :=
  ∃ cache, s.cache = some cache ∧ Tracks cache history

/-! ## One step is tracked -/

/-- A statement that asks the cache is tracked. -/
theorem tracks_cacheAfter (h : Tracks cache history) (q : CacheQuery β) (g : γ) :
    Tracks (cacheAfter g q.conn cache q.sql q.params q.reading)
      ((q.kept? g cache).toList ++ history) := by
  rw [cacheAfter_memory, CacheQuery.kept?]
  cases (cachedRows? cache (cache.keyFor q.conn.id q.sql q.params)).1 with
  | some rows => exact h.congr rfl rfl
  | none =>
    cases fetchedRows? g q.conn q.sql q.params q.reading with
    | none => exact h.congr rfl rfl
    | some rows => exact h.write _ _ rfl rfl

theorem CacheTracks.exec (h : s.CacheTracks history) (call : Call) :
    (s.exec call).2.CacheTracks ((s.change? (.exec call)).toList ++ history) := by
  obtain ⟨cache, hcache, htracks⟩ := h
  rw [change?]
  cases hquery : s.cacheQuery? call with
  | none =>
    rcases exec_cache_of_cacheQuery?_eq_none hquery with hsame | ⟨-, e, -, -, hset⟩
    · exact ⟨cache, hsame.trans hcache, htracks⟩
    · exact ⟨cache.setExpire e, by rw [hset, hcache]; rfl, htracks.congr rfl rfl⟩
  | some q =>
    rw [hcache]
    exact ⟨_, (asks_of_cacheQuery? hquery).exec_cache hcache, tracks_cacheAfter htracks q s.gateway⟩

omit [Gateway γ β] in
theorem CacheTracks.onCache (h : s.CacheTracks history) {f : Cache MemoryStore → Cache MemoryStore}
    {history' : List Change}
    (hf : ∀ cache, s.cache = some cache → Tracks cache history → Tracks (f cache) history') :
    (s.onCache f).CacheTracks history' := by
  obtain ⟨cache, hcache, htracks⟩ := h
  exact ⟨f cache, by rw [Session.onCache, hcache]; rfl, hf cache hcache htracks⟩

/-- **One step is tracked.** -/
theorem CacheTracks.after (h : s.CacheTracks history) (step : Step) :
    (s.after step).CacheTracks ((s.change? step).toList ++ history) := by
  cases step with
  | exec call => exact h.exec call
  | register config =>
    obtain ⟨cache, hcache, htracks⟩ := h
    refine ⟨cache, ?_, htracks⟩
    rw [Session.after, Session.register]
    split <;> exact hcache
  | setKey key =>
    refine h.onCache fun cache _ htracks => ?_
    rw [Cache.setKey]
    split <;> exact htracks.congr rfl rfl
  | setLabel | setExpire | setExpireGlobal | has =>
    exact h.onCache fun _ _ htracks => htracks.congr rfl rfl
  | write key v =>
    refine h.onCache fun cache hcache htracks => ?_
    rw [change?, hcache]
    exact htracks.write key v rfl rfl
  | flush => exact h.onCache fun _ _ htracks => htracks.flush rfl rfl
  | advance seconds =>
    exact h.onCache fun _ _ htracks =>
      ⟨htracks.entries, htracks.clock.advance seconds, htracks.times⟩

/-- **A run is tracked.** -/
theorem CacheTracks.play (h : s.CacheTracks history) (steps : List Step) :
    (s.play history steps).1.CacheTracks (s.play history steps).2 := by
  induction steps generalizing s history with
  | nil => exact h
  | cons step steps ih => exact ih (h.after step)

omit [Gateway γ β] in
/-- An empty cache tracks the empty history. -/
theorem cacheTracks_nil (hcache : s.cache = some cache) (hempty : cache.store = {})
    (hclock : cache.clock.Tells) : s.CacheTracks [] :=
  ⟨cache, hcache, fun _ => by rw [hempty]; rfl, hclock, fun _ _ _ hlatest => by cases hlatest⟩

/-! ## Every run -/

/-- **A call agrees with the history of the cache** that it asks. -/
structure Coherent (s : Session γ β MemoryStore) (history : List Change) (call : Call)
    (q : CacheQuery β) (cache : Cache MemoryStore) (key : String) : Prop where
  /-- It is answered exactly if the latest write since the last flush is a list, and in time. -/
  answered : ∀ rows, s.Answered q key rows ↔
    ∃ time, latest key history = some (time, .arr rows) ∧
      cache.expire.Allows cache.clock.now time
  /-- Its result is then made of these rows… -/
  output : ∀ rows, s.Answered q key rows → (s.exec call).1 = .ok (q.output call rows)
  /-- …and nothing happened but logging, nor was anything written. -/
  quiet : ∀ rows, s.Answered q key rows →
    OnlyLogged s (s.exec call).2 ∧ (s.exec call).2.cache.map Cache.store = some cache.store
  /-- If it is not answered and rows are fetched, these are the entry afterwards, as of now. -/
  kept : (∀ rows, ¬s.Answered q key rows) → q.reading.shape q.sql = .rows →
    ∀ rows, (linkResult s.gateway q.conn fun g link => Gateway.fetch g link q.sql q.params)
        = .ok rows →
      ((s.exec call).2.cache.bind fun c => c.store.get? key)
        = some (cache.clock.now, .arr (rows.map Json.obj))

omit [Gateway γ β] in
theorem answered_iff {q : CacheQuery β} (hcache : s.cache = some cache) {rows : List Json} :
    s.Answered q (cache.keyFor q.conn.id q.sql q.params) rows ↔
      (cachedRows? cache (cache.keyFor q.conn.id q.sql q.params)).1 = some rows := by
  rw [Answered, lookUp_eq s _ _ _ hcache]
  simp

omit [Gateway γ β] in
/-- What is in time is found, and nothing else. -/
theorem answered_iff_latest (h : Tracks cache history) (hcache : s.cache = some cache)
    (q : CacheQuery β) (rows : List Json) :
    s.Answered q (cache.keyFor q.conn.id q.sql q.params) rows ↔
      ∃ time, latest (cache.keyFor q.conn.id q.sql q.params) history = some (time, .arr rows) ∧
        cache.expire.Allows cache.clock.now time := by
  rw [answered_iff hcache, cachedRows?_eq_some]
  refine exists_congr fun time => ?_
  rw [h.entries]
  refine and_congr_right fun hlatest => ?_
  exact Expiry.fresh_iff_allows (h.times _ _ _ hlatest)

theorem Asks.kept {call : Call} {q : CacheQuery β} (h : Asks s call q)
    (hcache : s.cache = some cache)
    (hmiss : ∀ rows, ¬s.Answered q (cache.keyFor q.conn.id q.sql q.params) rows)
    (hshape : q.reading.shape q.sql = .rows) {rows : List Row}
    (hfetch : (linkResult s.gateway q.conn fun g link => Gateway.fetch g link q.sql q.params)
      = .ok rows) :
    ((s.exec call).2.cache.bind fun c => c.store.get? (cache.keyFor q.conn.id q.sql q.params))
      = some (cache.clock.now, .arr (rows.map Json.obj)) := by
  have hnone : (cachedRows? cache (cache.keyFor q.conn.id q.sql q.params)).1 = none :=
    Option.eq_none_iff_forall_ne_some.mpr fun found hfound =>
      hmiss found ((answered_iff hcache).mpr hfound)
  have hrows : fetchedRows? s.gateway q.conn q.sql q.params q.reading
      = some (rows.map Json.obj) := by
    rw [fetchedRows?, hshape, hfetch]
  rw [h.exec_cache hcache, cacheAfter_memory, hnone, hrows]
  exact (MemoryStore.get?_insert _ _ _ _ _).trans (if_pos rfl)

/-- **A call agrees with the history that the cache tracks.** -/
theorem coherent_of_tracks {call : Call} {q : CacheQuery β} (hcache : s.cache = some cache)
    (h : Tracks cache history) (hq : s.cacheQuery? call = some q) :
    Coherent s history call q cache (cache.keyFor q.conn.id q.sql q.params) := by
  have hasks := asks_of_cacheQuery? hq
  refine ⟨answered_iff_latest h hcache q,
    fun rows hrows => (hasks.exec_of_answered hcache hrows).1,
    fun rows hrows => ⟨(hasks.exec_of_answered hcache hrows).2, ?_⟩,
    fun hmiss hshape rows hfetch => hasks.kept hcache hmiss hshape hfetch⟩
  rw [hasks.exec_cache hcache, cacheAfter_memory, (answered_iff hcache).mp hrows]
  rfl

/-- **The cache is coherent over every run.**  However a session over an empty cache is run, a call
that asks the cache is answered from it exactly if the latest write under its key since the last
flush is a list of rows and in time; it then gives these rows, asks no backend and writes nothing.
If it is not answered and fetches rows, these are the entry under its key afterwards, as of now. -/
theorem play_coherent (s : Session γ β MemoryStore) (cache : Cache MemoryStore)
    (hcache : s.cache = some cache) (hempty : cache.store = {}) (hclock : cache.clock.Tells)
    (steps : List Step) (call : Call) (q : CacheQuery β)
    (hq : (s.play [] steps).1.cacheQuery? call = some q) :
    ∃ last, (s.play [] steps).1.cache = some last ∧
      Coherent (s.play [] steps).1 (s.play [] steps).2 call q last
        (last.keyFor q.conn.id q.sql q.params) := by
  obtain ⟨last, hlast, htracks⟩ := (cacheTracks_nil hcache hempty hclock).play steps
  exact ⟨last, hlast, coherent_of_tracks hlast htracks hq⟩

end Runs

/-- A gateway that counts what is fetched, and tells the count. -/
structure Counting where
  fetched : Nat := 0

instance : Gateway Counting Unit where
  connect g _ := (.ok (), g)
  quote _ value := Literal.quote value
  fetch g link _ _ := (.ok [[("n", .int g.fetched)]], link, ⟨g.fetched + 1⟩)
  execute g link _ _ := (.ok 0, link, g)
  lastInsertId g link := (.ok 0, link, g)
  transact g link _ := (.ok (), link, g)

/-- A selection asked for twice within its time: the second answer is the first, and the gateway,
which would tell another count, is not asked again. -/
theorem play_coherent_twice :
    let config : ConnectionConfig := { host := "h", database := "d", user := "u", password := "" }
    let s : Session Counting Unit MemoryStore :=
      { gateway := {}, registry := { connections := [{ id := 1, config }] }
        cache := some { store := {}, clock := .manual 1000 0 } }
    let call : Call := { command := "users/cache" }
    let run := s.play [] [.setKey "k", .exec call, .advance 10, .setKey "k"]
    latest "k" run.2 = some (1000, .arr [.obj [("n", .int 0)]]) ∧
      (run.1.exec call).1 = .ok (.rows [.obj [("n", .int 0)]]) ∧
      OnlyLogged run.1 (run.1.exec call).2 := by
  intro config s call run
  let q : CacheQuery Unit :=
    { command := { table := "users", options := ["cache"] }
      conn := { id := 1, config, link := some (),
                log := ["Query: SELECT * FROM users", "(Cache write: k)"] }
      sql := "SELECT * FROM users", params := .none, reading := .rows, finish := outputOf }
  have hq : run.1.cacheQuery? call = some q := by cbv
  have hlatest : latest "k" run.2 = some (1000, .arr [.obj [("n", .int 0)]]) := by cbv
  obtain ⟨last, hlast, hcoherent⟩ := play_coherent s _ rfl rfl (by decide) _ call q hq
  have hcache : run.1.cache = some
      { store := ⟨[("k", 1000, .arr [.obj [("n", .int 0)]])]⟩, clock := .manual 1000 10,
        key := some "k" } := by cbv
  cases hlast.symm.trans hcache
  have hanswered := (hcoherent.answered _).mpr ⟨1000, hlatest, by decide⟩
  exact ⟨hlatest, hcoherent.output _ hanswered, (hcoherent.quiet _ hanswered).1⟩

end Session

end SqlShorthand
