import SqlShorthand.Proofs.Session.Caching

/-!
# Proofs/Session/Frame — what a command leaves alone

A command speaks for one connection, and changes little even there.  `Frame` says what stays, given
what the command *may* change besides (`Permits`): the connections that are registered and every
other connection stay, and its own only grows — in its log, by a last error, by a link.

The steps of a statement keep to the frame (`WorkStep.frame`), so does noting a failure
(`Frame.surface`), and switching the log off is undone at the end (`Frame.of_setLogging`).  A command
is permitted what its verb says it sets (`Command.permits`), and `frame_runCommand` finds that no
command does more.
-/

namespace SqlShorthand

/-! ## Connections that grow -/

/-- **A connection after some use**: the configuration is kept, the log is extended at its end, an
error stays noted and a link stays open. -/
structure Connection.Grows {β : Type} (c d : Connection β) : Prop where
  config : d.config = c.config
  log : c.log <+: d.log
  lastError : c.hasError = true → d.hasError = true
  link : c.isConnected = true → d.isConnected = true

namespace Connection

variable {β : Type} {c d e : Connection β}

theorem Grows.refl (c : Connection β) : c.Grows c :=
  ⟨rfl, List.prefix_rfl, fun h => h, fun h => h⟩

theorem Grows.trans (h : c.Grows d) (h' : d.Grows e) : c.Grows e :=
  ⟨h'.config.trans h.config, h.log.trans h'.log, h'.lastError ∘ h.lastError, h'.link ∘ h.link⟩

theorem Extends.grows (h : c.Extends d) : c.Grows d := by
  obtain ⟨lines, hlog, -⟩ := h.log
  refine ⟨h.config, hlog ▸ List.prefix_append _ _, fun hc => ?_, h.link⟩
  rwa [hasError, h.lastError]

/-- Noting an error is growing. -/
theorem grows_recordError (c : Connection β) (message : String) :
    c.Grows (c.recordError message) := by
  refine ⟨pushLog_config c _, ?_, fun _ => rfl, fun hc => ?_⟩
  · change c.log <+: (c.pushLog (errorLine message)).log
    rcases pushLog_log c (errorLine message) with hlog | hlog
    · rw [hlog]
    · exact hlog ▸ List.prefix_append _ _
  · change (c.pushLog (errorLine message)).link.isSome = true
    rwa [pushLog_link]

theorem recordError_keys (c : Connection β) (message : String) :
    (c.recordError message).keys = c.keys := pushLog_keys c _

end Connection

/-! ## Registries that change at one id -/

/-- **Two registries that differ at one id at most**: the same ids are registered, and any other
connection is the same. -/
structure Registry.Confined {β : Type} (id : ConnectionId) (r r' : Registry β) : Prop where
  ids : r'.ids = r.ids
  lastAuto : r'.lastAuto = r.lastAuto
  others : ∀ id', id' ≠ id → r'.find? id' = r.find? id'

namespace Registry

variable {β : Type} {id : ConnectionId} {r r' r'' : Registry β}

theorem Confined.refl (r : Registry β) : Confined id r r := ⟨rfl, rfl, fun _ _ => rfl⟩

theorem Confined.trans (h : Confined id r r') (h' : Confined id r' r'') : Confined id r r'' :=
  ⟨h'.ids.trans h.ids, h'.lastAuto.trans h.lastAuto,
    fun id' hne => (h'.others id' hne).trans (h.others id' hne)⟩

/-- Changing one connection is confined to its id. -/
theorem confined_modify (r : Registry β) (id : ConnectionId) {f : Connection β → Connection β}
    (hf : ∀ c, (f c).id = c.id) : Confined id r (r.modify id f) := by
  refine ⟨?_, rfl, fun id' hne => find?_modify_of_ne r hf hne⟩
  rw [ids, ids, modify, List.map_map]
  refine congrArg (List.map · r.connections) (funext fun c => ?_)
  rw [Function.comp_apply]
  split
  · exact hf c
  · rfl

end Registry

/-! ## The frame -/

/-- What a command may change besides its connection's log, last error and link. -/
structure Permits where
  keys : Prop
  paging : Prop
  cache : Prop

/-- **What a command may change**: a key column by `key`, the paging by `pagination`, and the cache
by `cache` — or by looking into it, as a selection or a query with the flag CACHE does. -/
def Command.permits (c : Command) : Permits where
  keys := c.verb = some .key
  paging := c.verb = some .pagination
  cache := c.verb = some .cache ∨
    (c.verb = none ∨ c.verb = some .query) ∧ (Options.resolve c.options).has .cache = true

namespace Session

variable {γ β σ : Type} {id : ConnectionId} {may : Permits} {s t u : Session γ β σ}
  {c : Connection β}

/-- **What stays** between two sessions, for a command of one connection that may change this. -/
structure Frame (id : ConnectionId) (may : Permits) (s t : Session γ β σ) : Prop where
  registry : s.registry.Confined id t.registry
  connection : ∀ c, s.registry.find? id = some c →
    ∃ d, t.registry.find? id = some d ∧ c.Grows d ∧ (¬may.keys → d.keys = c.keys)
  paging : ¬may.paging → t.paging = s.paging
  cache : ¬may.cache → t.cache = s.cache

theorem Frame.refl (s : Session γ β σ) : Frame id may s s :=
  ⟨.refl _, fun c hc => ⟨c, hc, .refl c, fun _ => rfl⟩, fun _ => rfl, fun _ => rfl⟩

theorem Frame.trans (h : Frame id may s t) (h' : Frame id may t u) : Frame id may s u := by
  refine ⟨h.registry.trans h'.registry, fun c hc => ?_,
    fun hmay => (h'.paging hmay).trans (h.paging hmay),
    fun hmay => (h'.cache hmay).trans (h.cache hmay)⟩
  obtain ⟨d, hd, hgrows, hkeys⟩ := h.connection c hc
  obtain ⟨e, he, hgrows', hkeys'⟩ := h'.connection d hd
  exact ⟨e, he, hgrows.trans hgrows', fun hmay => (hkeys' hmay).trans (hkeys hmay)⟩

/-- A change of one connection that keeps its keys stays in the frame. -/
theorem frame_modify (s : Session γ β σ) (may : Permits) (f : Connection β → Connection β)
    (hid : ∀ c, (f c).id = c.id) (hf : ∀ c, c.Grows (f c) ∧ (f c).keys = c.keys)
    {gateway : γ} {trace : List Event} :
    Frame id may s { s with gateway, trace, registry := s.registry.modify id f } := by
  refine ⟨Registry.confined_modify _ id hid, fun c hc => ?_, fun _ => rfl, fun _ => rfl⟩
  refine ⟨f c, ?_, (hf c).1, fun _ => (hf c).2⟩
  rw [Registry.find?_modify_self _ hid, hc]
  rfl

/-! ## A statement stays in the frame -/

theorem frame_pushLog (s : Session γ β σ) (id : ConnectionId) (may : Permits) {line : String}
    (hline : ¬IsErrorLine line) : Frame id may s (s.pushLog id line) := by
  rw [pushLog]
  split
  · exact frame_modify s may _ (fun c => c.pushLog_id line)
      fun c => ⟨(c.extends_pushLog hline).grows, c.pushLog_keys line⟩
  · exact .refl s

/-- **One step of a statement stays in the frame**, where it may change the cache. -/
theorem WorkStep.frame (h : WorkStep id s t) (hmay : may.cache) : Frame id may s t := by
  cases h with
  | log line hline => exact frame_pushLog s id may hline
  | speak gateway event hevent =>
    exact ⟨.refl _, fun c hc => ⟨c, hc, .refl c, fun _ => rfl⟩, fun _ => rfl, fun _ => rfl⟩
  | link link =>
    exact frame_modify s may (fun c => { c with link := some link }) (fun _ => rfl)
      fun c => ⟨(c.extends_link link).grows, rfl⟩
  | cache cache =>
    exact ⟨.refl _, fun c hc => ⟨c, hc, .refl c, fun _ => rfl⟩, fun _ => rfl, absurd hmay⟩

/-- **A statement stays in the frame.** -/
theorem Work.frame (h : Work id s t) (hmay : may.cache) : Frame id may s t := by
  induction h with
  | refl => exact .refl s
  | tail _ hstep ih => exact ih.trans (hstep.frame hmay)

/-- …also where it may not change the cache, if it does not. -/
theorem Work.frame_of_cache (h : Work id s t) (may : Permits) (hcache : t.cache = s.cache) :
    Frame id may s t := by
  have hframe : Frame id { may with cache := True } s t := h.frame trivial
  exact ⟨hframe.registry, hframe.connection, hframe.paging, fun _ => hcache⟩

/-- **Noting a failure stays in the frame.** -/
theorem Frame.surface {α : Type} {r : Except Error α} (h : Frame id may s t) :
    Frame id may s (surface id (r, t)).2 := by
  obtain e | a := r
  · simp only [Session.surface]
    split
    · exact h
    · split
      · exact h
      · rename_i d hd
        have hnote : Frame id may t (t.noteError d e.message
            (d.config.surfaceErrors && d.config.errorHandler)) := by
          rw [noteError, Registry.id_of_find? hd]
          exact frame_modify t may _ (fun d => recordError_id d _)
            fun d => ⟨d.grows_recordError _, d.recordError_keys _⟩
        split <;> exact h.trans hnote
  · exact h

section Switch

theorem confined_setLogging (s : Session γ β σ) (id : ConnectionId) (on : Bool) :
    s.registry.Confined id (s.setLogging id on).registry :=
  Registry.confined_modify s.registry id fun _ => rfl

/-- **The switch of the log is undone**: what stays with the log off stays once it is as before. -/
theorem Frame.of_setLogging (hc : s.registry.find? id = some c)
    (h : Frame id may (s.setLogging id false) t) :
    Frame id may s (t.setLogging id c.config.logging) := by
  refine ⟨((confined_setLogging s id false).trans h.registry).trans (confined_setLogging t id _),
    fun c' hc' => ?_, h.paging, h.cache⟩
  obtain rfl := Option.some.inj (hc.symm.trans hc')
  obtain ⟨d, hd, hgrows, hkeys⟩ := h.connection _ ((find?_setLogging s false).trans
    (congrArg (Option.map _) hc))
  refine ⟨{ d with config := { d.config with logging := c.config.logging } }, ?_,
    ⟨?_, hgrows.log, hgrows.lastError, hgrows.link⟩, hkeys⟩
  · rw [find?_setLogging, hd]
    rfl
  · rw [hgrows.config]

end Switch

/-! ## Every command stays in its frame -/

/-- What a command settles by itself is what its verb sets. -/
theorem frame_settles {c : Command} {r : Except Error Output} (h : Settles s c r t) :
    Frame c.connection c.permits s t := by
  cases h with
  | refused | unknown | told => exact .refl s
  | keys o keys hverb conn hconn =>
    have hid : ∀ d : Connection β, { d with keys }.id = d.id := fun _ => rfl
    refine ⟨Registry.confined_modify _ _ hid, fun d hd => ?_, fun _ => rfl, fun _ => rfl⟩
    refine ⟨{ d with keys }, ?_, ⟨rfl, List.prefix_rfl, fun h => h, fun h => h⟩, absurd hverb⟩
    rw [Registry.find?_modify_self _ hid, hd]
    rfl
  | expiry e cache hverb hcache =>
    exact ⟨.refl _, fun c hc => ⟨c, hc, .refl c, fun _ => rfl⟩, fun _ => rfl,
      fun hmay => absurd (.inl hverb) hmay⟩
  | paging p hverb =>
    exact ⟨.refl _, fun c hc => ⟨c, hc, .refl c, fun _ => rfl⟩, absurd hverb, fun _ => rfl⟩

section Courses

variable [Gateway γ β]

omit [Gateway γ β] in
theorem useCache_of_selectCourse {c : Command} {options : Options} {args : List Params}
    {sql : String} {params : Params} {reading : Reading} {useCache : Bool} {neutral : Output}
    {finish : Outcome → Output}
    (h : s.selectCourse c options args = .run sql params reading useCache neutral finish) :
    useCache = options.has .cache := by
  rw [selectCourse] at h
  split at h
  · cases h
  · split at h
    · split at h
      · cases h
      · split at h
        · cases h
        · split at h <;> cases h
          rfl
    · split at h
      · cases h
      · split at h
        · cases h
        · split at h <;> cases h <;> rfl

omit [Gateway γ β] in
theorem useCache_of_queryCourse {c : Command} {options : Options} {args : List Params}
    {sql : String} {params : Params} {reading : Reading} {useCache : Bool} {neutral : Output}
    {finish : Outcome → Output}
    (h : s.queryCourse c options args = .run sql params reading useCache neutral finish) :
    useCache = options.has .cache := by
  rw [queryCourse] at h
  split at h
  · cases h
  · split at h
    · cases h
    · split at h
      · split at h
        · cases h
        · split at h <;> cases h
          rfl
      · split at h <;> cases h <;> rfl

omit [Gateway γ β] in
/-- A verb that compiles to a statement of its own never asks for the cache. -/
theorem useCache_of_statementCourse {verb : Verb} {c : Command} {options : Options}
    {args : List Params} {sql : String} {params : Params} {reading : Reading} {useCache : Bool}
    {neutral : Output} {finish : Outcome → Output}
    (h : s.statementCourse verb c options args = .run sql params reading useCache neutral finish) :
    useCache = false := by
  rw [statementCourse] at h
  split at h
  · cases h
  · split at h
    · cases h
    · cases verb <;> cases h <;> rfl

/-- **Only a selection or a query asks for the cache**, and only with the flag CACHE. -/
theorem permits_of_course {c : Command} {args : List Params} {sql : String} {params : Params}
    {reading : Reading} {neutral : Output} {finish : Outcome → Output}
    (h : s.course c args = .run sql params reading true neutral finish) : c.permits.cache := by
  rw [course] at h
  split at h
  · rename_i hverb
    exact .inr ⟨.inl hverb, (useCache_of_selectCourse h).symm⟩
  · rename_i hverb
    exact .inr ⟨.inr hverb, (useCache_of_queryCourse h).symm⟩
  · rename_i verb _ _
    split at h
    · cases useCache_of_statementCourse h
    · cases verb <;> cases h

variable [Store σ]

theorem frame_dispatch (s : Session γ β σ) (id : ConnectionId) (sql : String) (params : Params)
    (reading : Reading) {useCache : Bool} (hmay : useCache = true → may.cache) :
    Frame id may s (s.dispatch id sql params reading useCache).2 := by
  have hwork : Work id s (s.dispatch id sql params reading useCache).2 :=
    work_dispatch s sql params reading useCache
  cases useCache with
  | true => exact hwork.frame (hmay rfl)
  | false => exact hwork.frame_of_cache may (dispatch_cache_false s id sql params reading)

theorem frame_run (s : Session γ β σ) (id : ConnectionId) (sql : String) (params : Params)
    (reading : Reading) {useCache : Bool} (hmay : useCache = true → may.cache) :
    Frame id may s (s.run id sql params reading useCache).2 :=
  (frame_dispatch s id sql params reading hmay).surface

theorem frame_runUnlogged (s : Session γ β σ) (id : ConnectionId) (may : Permits)
    (stmt : Statement) : Frame id may s (s.runUnlogged id stmt).2 := by
  rw [runUnlogged]
  split
  · exact .refl s
  · rename_i c hc
    refine Frame.of_setLogging hc ?_
    rw [orElse_snd]
    exact frame_run _ id _ _ _ fun huse => absurd huse Bool.false_ne_true

omit [Store σ] in
theorem frame_throughLink {α : Type} (s : Session γ β σ) (may : Permits) {event : Event}
    (hevent : IsOperation id event) (op : γ → β → Except Error α × β × γ) :
    Frame id may s (surface id (s.throughLink id event op)).2 := by
  have hframe := (work_throughLink s hevent op).frame_of_cache may (throughLink_cache s id event op)
  exact hframe.surface

/-- **Every command stays in its frame.** -/
theorem frame_runCommand (s : Session γ β σ) (c : Command) (args : List Params) :
    Frame c.connection c.permits s (s.runCommand c args).2 := by
  rw [runCommand_eq_follow]
  cases hcourse : s.course c args with
  | settled r after => exact frame_settles (settles_course hcourse)
  | run sql params reading useCache neutral finish =>
    rw [follow, orElse_snd]
    exact frame_run s _ sql params reading fun huse => permits_of_course (huse ▸ hcourse)
  | runUnlogged stmt => exact frame_runUnlogged s _ _ stmt
  | insertId =>
    rw [follow, insertId, orElse_snd]
    exact frame_throughLink s _ .lastInsertId _
  | transact step =>
    rw [follow, transaction, orElse_snd]
    exact frame_throughLink s _ (.transaction step) _

end Courses

end Session

end SqlShorthand
