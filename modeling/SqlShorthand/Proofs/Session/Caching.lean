import SqlShorthand.Proofs.Session.Surfacing

/-!
# Proofs/Session/Caching — what a statement does to the cache

A statement that asks for no cache leaves it alone (`dispatch_cache_false`).  One that asks for it
looks once, which uses up what was set for one query, and after a miss keeps the rows that were
fetched; `cacheAfter` says so without running anything, and `dispatch_cache` ties it to the run.
-/

namespace SqlShorthand.Session

variable {γ β σ : Type} [Gateway γ β] {s : Session γ β σ} {id : ConnectionId} {c : Connection β}

/-- The rows that a statement fetches, if it gives rows and the backend does not refuse it. -/
def fetchedRows? (g : γ) (c : Connection β) (sql : String) (params : Params) (reading : Reading) :
    Option (List Json) :=
  match reading.shape sql, linkResult g c fun g link => Gateway.fetch g link sql params with
  | .rows, .ok rows => some (rows.map Json.obj)
  | _, _ => none

variable [Store σ]

/-- The cache after a statement that asked for it: looked into, and written to after a miss. -/
def cacheAfter (g : γ) (c : Connection β) (cache : Cache σ) (sql : String) (params : Params)
    (reading : Reading) : Cache σ :=
  let key := cache.keyFor c.id sql params
  match cachedRows? cache key, fetchedRows? g c sql params reading with
  | (none, cache), some rows => (cache.write key (.arr rows)).2
  | (_, cache), _ => cache

/-! ## Sending -/

omit [Store σ] in
theorem fetchedRows?_pushLog (g : γ) (c : Connection β) (line sql : String) (params : Params)
    (reading : Reading) :
    fetchedRows? g (c.pushLog line) sql params reading = fetchedRows? g c sql params reading := by
  simp only [fetchedRows?, linkResult_pushLog]

theorem cacheAfter_pushLog (g : γ) (c : Connection β) (line : String) (cache : Cache σ)
    (sql : String) (params : Params) (reading : Reading) :
    cacheAfter g (c.pushLog line) cache sql params reading
      = cacheAfter g c cache sql params reading := by
  simp only [cacheAfter, fetchedRows?_pushLog, Connection.pushLog_id]

/-- Without a key, nothing is kept. -/
theorem send_cache_none (s : Session γ β σ) (id : ConnectionId) (sql : String) (params : Params)
    (reading : Reading) : (s.send id sql params reading none).2.cache = s.cache := by
  have hfetch := throughLink_cache s id (.fetch id sql params) fun g link =>
    Gateway.fetch g link sql params
  have hexecute := throughLink_cache s id (.execute id sql params) fun g link =>
    Gateway.execute g link sql params
  rw [send]
  split
  · split <;> rename_i h <;> rwa [h] at hfetch
  · split <;> rename_i h <;> rwa [h] at hexecute
  · split <;> rename_i h <;> rwa [h] at hexecute

omit [Gateway γ β] in
theorem keep_cache {cache : Cache σ} (hcache : s.cache = some cache) (key : String)
    (rows : List Json) : (s.keep key rows).2.cache = some (cache.write key (.arr rows)).2 := by
  rw [keep, hcache]

/-- **With a key, the fetched rows are kept under it.** -/
theorem send_cache_some (hc : s.registry.find? id = some c) {cache : Cache σ}
    (hcache : s.cache = some cache) (sql : String) (params : Params) (reading : Reading)
    (key : String) :
    (s.send id sql params reading (some key)).2.cache
      = some (match fetchedRows? s.gateway c sql params reading with
        | some rows => (cache.write key (.arr rows)).2
        | none => cache) := by
  have hfetch := throughLink_cache s id (.fetch id sql params) fun g link =>
    Gateway.fetch g link sql params
  have hresult := throughLink_fst hc (.fetch id sql params) fun g link =>
    Gateway.fetch g link sql params
  have hexecute := throughLink_cache s id (.execute id sql params) fun g link =>
    Gateway.execute g link sql params
  rw [send]
  cases hshape : reading.shape sql with
  | rows =>
    simp only [fetchedRows?, hshape, ← hresult]
    split
    · rename_i h
      rw [h] at hfetch
      rw [h]
      exact hfetch.trans hcache
    · rename_i rows t h
      have hkept := keep_cache ((pushLog_cache t id (cacheWriteLine key)).trans
        ((congrArg (fun r => r.2.cache) h).symm.trans (hfetch.trans hcache))) key (rows.map Json.obj)
      rw [h]
      split <;> rename_i hkeep <;> rwa [hkeep] at hkept
  | affected | done =>
    simp only [fetchedRows?, hshape]
    split <;> rename_i h <;> rw [h] at hexecute <;> exact hexecute.trans hcache

/-! ## Dispatching -/

/-- **A statement that asks for no cache leaves it alone.** -/
theorem dispatch_cache_false (s : Session γ β σ) (id : ConnectionId) (sql : String)
    (params : Params) (reading : Reading) :
    (s.dispatch id sql params reading false).2.cache = s.cache := by
  rw [dispatch]
  split
  · rfl
  · dsimp only
    split
    · rw [answer, if_neg Bool.false_ne_true, send_cache_none, pushLog_cache]
    · split
      · exact pushLog_cache s id _
      · rw [answer, if_neg Bool.false_ne_true, send_cache_none, pushLog_cache, pushLog_cache]

theorem answer_cache (hc : s.registry.find? id = some c) {cache : Cache σ}
    (hcache : s.cache = some cache) (sql : String) (params : Params) (reading : Reading) :
    (s.answer id sql params reading true).2.cache
      = some (cacheAfter s.gateway c cache sql params reading) := by
  rw [answer, if_pos rfl, lookUp_eq s id sql params hcache, cacheAfter, Registry.id_of_find? hc]
  obtain ⟨rows, after⟩ := cachedRows? cache (cache.keyFor id sql params)
  cases rows with
  | some rows => exact pushLog_cache _ id _
  | none =>
    have hmiss : ({ s with cache := some after } : Session γ β σ).registry.find? id = some c := hc
    dsimp only
    rw [send_cache_some hmiss rfl]
    cases fetchedRows? s.gateway c sql params reading <;> rfl

omit [Gateway γ β] [Store σ] in
/-- The session once a statement and its values are logged. -/
def logged (s : Session γ β σ) (id : ConnectionId) (sql : String) (params : Params) :
    Session γ β σ :=
  if params.isEmpty then s.pushLog id (queryLine sql)
  else (s.pushLog id (queryLine sql)).pushLog id (paramsLine params)

theorem dispatch_eq_answer (hc : s.registry.find? id = some c) (sql : String) {params : Params}
    (hparams : params.ensureBindable = .ok ()) (reading : Reading) (useCache : Bool) :
    s.dispatch id sql params reading useCache
      = (s.logged id sql params).answer id sql params reading useCache := by
  rw [dispatch, Registry.contains_eq_true hc, hparams, logged]
  simp only [Bool.not_true, Bool.false_eq_true, if_false]
  split <;> rfl

/-- **The cache after a statement that asked for it.** -/
theorem dispatch_cache (hc : s.registry.find? id = some c) {cache : Cache σ}
    (hcache : s.cache = some cache) (sql : String) {params : Params}
    (hparams : params.ensureBindable = .ok ()) (reading : Reading) :
    (s.dispatch id sql params reading true).2.cache
      = some (cacheAfter s.gateway c cache sql params reading) := by
  have hquery := find?_pushLog hc (queryLine sql)
  have hline := (pushLog_cache s id (queryLine sql)).trans hcache
  rw [dispatch_eq_answer hc sql hparams, logged]
  split
  · rw [answer_cache hquery hline, pushLog_gateway, cacheAfter_pushLog]
  · rw [answer_cache (find?_pushLog hquery _) ((pushLog_cache _ id _).trans hline), pushLog_gateway,
      pushLog_gateway, cacheAfter_pushLog, cacheAfter_pushLog]

/-- Values that are refused are refused before the cache is asked. -/
theorem dispatch_cache_of_error (s : Session γ β σ) (id : ConnectionId) (sql : String)
    {params : Params} {e : Error} (hparams : params.ensureBindable = .error e) (reading : Reading)
    (useCache : Bool) : (s.dispatch id sql params reading useCache).2.cache = s.cache := by
  rw [dispatch]
  split
  · rfl
  · dsimp only
    split
    · rename_i hempty
      rw [ensureBindable_of_isEmpty hempty] at hparams
      cases hparams
    · rw [hparams]
      exact pushLog_cache s id _

/-- A statement of an unknown connection, or with values that are refused, never reaches the
cache. -/
theorem dispatch_cache_of_unreached (s : Session γ β σ) (id : ConnectionId) (sql : String)
    {params : Params} (reading : Reading) (useCache : Bool)
    (h : ∀ c, s.registry.find? id = some c → params.ensureBindable ≠ .ok ()) :
    (s.dispatch id sql params reading useCache).2.cache = s.cache := by
  cases hc : s.registry.find? id with
  | none =>
    rw [dispatch, Registry.contains_eq_false hc]
    rfl
  | some c =>
    cases hparams : params.ensureBindable with
    | error e => exact dispatch_cache_of_error s id sql hparams reading useCache
    | ok u => exact absurd hparams (h c hc)

/-! ## Surfacing -/

omit [Gateway γ β] [Store σ] in
/-- Noting a failure is no business of the cache. -/
theorem surface_cache {α : Type} (r : Except Error α × Session γ β σ) :
    (surface id r).2.cache = r.2.cache := by
  obtain ⟨e | a, t⟩ := r
  · simp only [surface]
    split
    · rfl
    · split
      · rfl
      · split <;> rfl
  · rfl

theorem run_cache (s : Session γ β σ) (id : ConnectionId) (sql : String) (params : Params)
    (reading : Reading) (useCache : Bool) :
    (s.run id sql params reading useCache).2.cache
      = (s.dispatch id sql params reading useCache).2.cache := surface_cache _

theorem runUnlogged_cache (s : Session γ β σ) (id : ConnectionId) (stmt : Statement) :
    (s.runUnlogged id stmt).2.cache = s.cache := by
  rw [runUnlogged]
  split
  · rfl
  · dsimp only
    rw [orElse_snd]
    exact (run_cache _ id _ _ _ _).trans (dispatch_cache_false _ id _ _ _)

end SqlShorthand.Session
