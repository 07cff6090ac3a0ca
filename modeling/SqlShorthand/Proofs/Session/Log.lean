import SqlShorthand.Proofs.Session.RawValues

/-!
# Proofs/Session/Log — the log is a faithful record

What a call writes into the log of its connection can be read off the call and the answers of
gateway and store, without running anything: `callLines`.  The parts:

* `Records` — between two sessions, a connection wrote down these lines, if its log is on, and
  nothing else.  One lemma for each operation says which; they chain by `Records.trans`.
* `records_exec` — a call writes down its lines; `logOf_execAll` — so does a run of calls.
* `runSql_sublist` — what is sent is written down: the SQL that reaches a backend is among the
  lines of the run, in order.

That the log can be switched off is part of `Records`, so that the same lemmas serve a statement
which is run with the log off meanwhile.
-/

namespace SqlShorthand

/-- What a connection without a log handler keeps of a line. -/
theorem Connection.log_pushLog {β : Type} {c : Connection β} (h : c.config.logHandler = none)
    (line : String) :
    (c.pushLog line).log = c.log ++ if c.config.logging then [line] else [] := by
  rw [pushLog, keepsLine, h]
  cases c.config.logging with
  | true => rfl
  | false => exact (List.append_nil _).symm

namespace Params

/-- Values are refused exactly if one of them is raw. -/
theorem any_isRaw (params : Params) :
    params.values.any Value.isRaw = (errorOf? params.ensureBindable).isSome := by
  rw [← map_snd_labelled, List.any_map, ensureBindable]
  split
  · rename_i label v hfound
    exact List.any_eq_true.mpr ⟨_, List.mem_of_find?_eq_some hfound, List.find?_some hfound⟩
  · rename_i hnone
    exact List.any_eq_false.mpr (List.find?_eq_none.mp hnone)

end Params

/-- The SQL that an event sends to the backend of a connection. -/
def Event.sqlFor? (id : ConnectionId) : Event → Option String
  | .fetch id' sql _ | .execute id' sql _ => if id' = id then some sql else none
  | _ => none

namespace Session

variable {γ β σ : Type} {id : ConnectionId} {s t u : Session γ β σ} {c : Connection β}
  {lines lines' : List String}

/-! ## What is written down -/

/-- **What a connection wrote down between two sessions**, if it has no log handler: these lines if
its log is on, and else nothing. -/
def Records (id : ConnectionId) (s t : Session γ β σ) (lines : List String) : Prop :=
  ∀ c, s.registry.find? id = some c → c.config.logHandler = none →
    ∃ d, t.registry.find? id = some d ∧ d.config = c.config ∧
      d.log = c.log ++ if c.config.logging then lines else []

theorem Records.trans (h : Records id s t lines) (h' : Records id t u lines') :
    Records id s u (lines ++ lines') := by
  intro c hc hhandler
  obtain ⟨d, hd, hconfig, hlog⟩ := h c hc hhandler
  obtain ⟨e, he, hconfig', hlog'⟩ := h' d hd (by rw [hconfig, hhandler])
  refine ⟨e, he, hconfig'.trans hconfig, ?_⟩
  rw [hlog', hlog, hconfig, List.append_assoc]
  cases c.config.logging <;> rfl

/-- A change that leaves configuration and log alone writes nothing down. -/
theorem records_modify {f : Connection β → Connection β} (hid : ∀ c, (f c).id = c.id)
    (hconfig : ∀ c, (f c).config = c.config) (hlog : ∀ c, (f c).log = c.log)
    (ht : t.registry = s.registry.modify id f) : Records id s t [] := by
  intro c hc _
  refine ⟨f c, ?_, hconfig c, ?_⟩
  · rw [ht, Registry.find?_modify_self _ hid, hc]
    rfl
  · rw [hlog, ite_self, List.append_nil]

theorem records_of_find? (h : t.registry.find? id = s.registry.find? id) : Records id s t [] := by
  intro c hc _
  exact ⟨c, h.trans hc, rfl, by rw [ite_self, List.append_nil]⟩

theorem records_of_registry (h : t.registry = s.registry) : Records id s t [] :=
  records_of_find? (by rw [h])

theorem Records.refl (s : Session γ β σ) : Records id s s [] := records_of_registry rfl

theorem records_pushLog (s : Session γ β σ) (id : ConnectionId) (line : String) :
    Records id s (s.pushLog id line) [line] := fun c hc hhandler =>
  ⟨c.pushLog line, find?_pushLog hc line, c.pushLog_config line, c.log_pushLog hhandler line⟩

/-! ## Links -/

section Links

variable [Gateway γ β]

theorem records_openLink (hc : s.registry.find? id = some c) :
    Records id s (s.openLink c).2 [] := by
  obtain rfl := Registry.id_of_find? hc
  rw [openLink]
  split
  · exact .refl s
  · dsimp only
    split
    · exact records_modify (f := fun c => { c with link := some _ }) (fun _ => rfl) (fun _ => rfl)
        (fun _ => rfl) rfl
    · exact records_of_registry rfl

theorem records_throughLink {α : Type} (s : Session γ β σ) (id : ConnectionId) (event : Event)
    (op : γ → β → Except Error α × β × γ) : Records id s (s.throughLink id event op).2 [] := by
  rw [throughLink]
  split
  · exact .refl s
  · rename_i c hc
    have hopen := records_openLink hc
    split
    · rename_i h
      rwa [h] at hopen
    · rename_i link t h
      rw [h] at hopen
      refine hopen.trans (records_modify (f := fun c => { c with link := some _ }) (fun _ => rfl)
        (fun _ => rfl) (fun _ => rfl) rfl)

end Links

/-! ## Statements -/

/-- The line of a failure, if it is one that is noted. -/
def failureLines : Option Error → List String
  | none => []
  | some e => if e.recordable then [Connection.errorLine e.message] else []

/-- The line of a statement's values, if there are any and none is raw. -/
def paramsLines (params : Params) : List String :=
  if params.isEmpty || params.values.any Value.isRaw then [] else [paramsLine params]

section Statements

variable [Gateway γ β]

/-- The line of rows that were fetched to be kept under a key. -/
def keepLines (g : γ) (c : Connection β) (sql : String) (params : Params) (reading : Reading) :
    Option String → List String
  | none => []
  | some key =>
    match fetchedRows? g c sql params reading with
    | some _ => [cacheWriteLine key]
    | none => []

variable [Store σ]

/-- The line of the cache: a read if it has the answer, and a write if it has not and the rows were
fetched.  Values that are refused are refused before the cache is asked. -/
def cacheLines (g : γ) (cache : Option (Cache σ)) (c : Connection β) (sql : String)
    (params : Params) (reading : Reading) (useCache : Bool) : List String :=
  match useCache && !params.values.any Value.isRaw, cache with
  | true, some cache =>
    let key := cache.keyFor c.id sql params
    match (cachedRows? cache key).1 with
    | some _ => [cacheReadLine key]
    | none => keepLines g c sql params reading (some key)
  | _, _ => []

/-- **The lines of a statement**: the SQL, its values, the cache, and its failure. -/
def statementLines (g : γ) (cache : Option (Cache σ)) (c : Connection β) (sql : String)
    (params : Params) (reading : Reading) (useCache : Bool) : List String :=
  [queryLine sql] ++ paramsLines params ++ cacheLines g cache c sql params reading useCache ++
    failureLines (statementFailure? g cache c sql params reading useCache)

omit [Gateway γ β] in
theorem records_keep (s : Session γ β σ) (key : String) (rows : List Json) :
    Records id s (s.keep key rows).2 [] := by
  rw [keep]
  split
  · exact .refl s
  · exact records_of_registry rfl

theorem records_send (hc : s.registry.find? id = some c) (sql : String) (params : Params)
    (reading : Reading) (key : Option String) :
    Records id s (s.send id sql params reading key).2
      (keepLines s.gateway c sql params reading key) := by
  have hfetch := records_throughLink s id (.fetch id sql params) fun g link =>
    Gateway.fetch g link sql params
  have hresult := throughLink_fst hc (.fetch id sql params) fun g link =>
    Gateway.fetch g link sql params
  have hexecute := records_throughLink s id (.execute id sql params) fun g link =>
    Gateway.execute g link sql params
  rw [send]
  cases hshape : reading.shape sql with
  | rows =>
    generalize s.throughLink id (.fetch id sql params) _ = fetched at hfetch hresult
    obtain ⟨e | rows, t⟩ := fetched
    · have hnone : keepLines s.gateway c sql params reading key = [] := by
        cases key <;> simp [keepLines, fetchedRows?, hshape, ← hresult]
      rw [hnone]
      exact hfetch
    · cases key with
      | none => exact hfetch
      | some key =>
        have hkept := (hfetch.trans (records_pushLog t id (cacheWriteLine key))).trans
          (records_keep _ key (rows.map Json.obj))
        simp only [keepLines, fetchedRows?, hshape, ← hresult]
        split <;> rename_i h <;> rwa [h] at hkept
  | affected | done =>
    have hnone : keepLines s.gateway c sql params reading key = [] := by
      cases key <;> simp [keepLines, fetchedRows?, hshape]
    rw [hnone]
    dsimp only
    split <;> rename_i h <;> rwa [h] at hexecute

theorem records_answer (hc : s.registry.find? id = some c) (sql : String) {params : Params}
    (hparams : params.ensureBindable = .ok ()) (reading : Reading) (useCache : Bool) :
    Records id s (s.answer id sql params reading useCache).2
      (cacheLines s.gateway s.cache c sql params reading useCache) := by
  have hraw : params.values.any Value.isRaw = false := by
    rw [params.any_isRaw, hparams]
    rfl
  cases useCache with
  | false => exact records_send hc sql params reading none
  | true =>
    simp only [answer, if_true, cacheLines, hraw, Bool.not_false, Bool.and_true]
    cases hcache : s.cache with
    | none =>
      rw [lookUp, hcache]
      exact .refl s
    | some cache =>
      rw [lookUp_eq s id sql params hcache, Registry.id_of_find? hc]
      dsimp only
      generalize cachedRows? cache (cache.keyFor id sql params) = looked
      obtain ⟨_ | rows, after⟩ := looked
      · exact records_send (s := { s with cache := some after }) hc sql params reading _
      · have hlook : Records id s { s with cache := some after } [] := records_of_registry rfl
        exact hlook.trans (records_pushLog _ id _)

theorem cacheLines_pushLog (g : γ) (cache : Option (Cache σ)) (c : Connection β)
    (line sql : String) (params : Params) (reading : Reading) (useCache : Bool) :
    cacheLines g cache (c.pushLog line) sql params reading useCache
      = cacheLines g cache c sql params reading useCache := by
  simp only [cacheLines, keepLines, fetchedRows?_pushLog, Connection.pushLog_id]

theorem records_dispatch (hc : s.registry.find? id = some c) (sql : String) (params : Params)
    (reading : Reading) (useCache : Bool) :
    Records id s (s.dispatch id sql params reading useCache).2
      ([queryLine sql] ++ paramsLines params ++
        cacheLines s.gateway s.cache c sql params reading useCache) := by
  have hraw := params.any_isRaw
  have hquery := records_pushLog s id (queryLine sql)
  have hlogged := find?_pushLog hc (queryLine sql)
  cases hparams : params.ensureBindable with
  | error e =>
    rw [hparams] at hraw
    rw [dispatch_of_raw hparams, Registry.contains_eq_true hc, if_pos rfl]
    simpa [paramsLines, cacheLines, hraw, errorOf?] using hquery
  | ok =>
    rw [hparams] at hraw
    rw [dispatch_eq_answer hc sql hparams, logged, paramsLines, hraw]
    cases params.isEmpty with
    | true =>
      have hanswer := records_answer hlogged sql hparams reading useCache
      rw [pushLog_gateway, pushLog_cache, cacheLines_pushLog] at hanswer
      exact hquery.trans hanswer
    | false =>
      have hanswer := records_answer (find?_pushLog hlogged (paramsLine params)) sql hparams reading
        useCache
      rw [pushLog_gateway, pushLog_gateway, pushLog_cache, pushLog_cache, cacheLines_pushLog,
        cacheLines_pushLog] at hanswer
      exact (hquery.trans (records_pushLog _ id (paramsLine params))).trans hanswer

end Statements

/-! ## Failures -/

theorem records_noteError (hc : s.registry.find? id = some c) (message : String) (notify : Bool) :
    Records id s (s.noteError c message notify) [Connection.errorLine message] := by
  intro c' hc' hhandler
  obtain rfl := Option.some.inj (hc.symm.trans hc')
  refine ⟨c.recordError message, ?_, c.pushLog_config _, c.log_pushLog hhandler _⟩
  rw [noteError, Registry.id_of_find? hc,
    Registry.find?_modify_self _ fun c => recordError_id c message, hc]
  rfl

/-- **A failure that is noted is written down**, after all else. -/
theorem Records.surface {α : Type} {r : Except Error α} (h : Records id s t lines) :
    Records id s (surface id (r, t)).2 (lines ++ failureLines (errorOf? r)) := by
  refine h.trans ?_
  obtain e | a := r
  · simp only [Session.surface, errorOf?, failureLines]
    cases e.recordable with
    | false => exact .refl t
    | true =>
      cases hc : t.registry.find? id with
      | none =>
        intro c hc'
        rw [hc] at hc'
        cases hc'
      | some c =>
        have hnoted := records_noteError hc e.message
          (c.config.surfaceErrors && c.config.errorHandler)
        simp only [Bool.not_true, Bool.false_eq_true, if_false, if_true]
        split <;> exact hnoted
  · exact .refl t

/-! ## Commands -/

theorem records_settles {command : Command} {r : Except Error Output}
    (h : Settles s command r t) : Records command.connection s t [] := by
  cases h with
  | refused | unknown | told => exact .refl s
  | keys o keys =>
    exact records_modify (f := fun conn => { conn with keys }) (fun _ => rfl) (fun _ => rfl)
      (fun _ => rfl) rfl
  | expiry | paging => exact records_of_registry rfl

section Commands

variable [Gateway γ β] [Store σ]

/-- The lines of a course. -/
def courseLines (s : Session γ β σ) (c : Connection β) (course : Course γ β σ) : List String :=
  match course with
  | .settled _ _ | .runUnlogged _ => []
  | .run sql params reading useCache _ _ =>
    statementLines s.gateway s.cache c sql params reading useCache
  | .insertId | .transact _ => failureLines (s.courseFailure? c course)

/-- **The lines of a command**: those of its statement, if it comes to one; for `id` and the steps
of a transaction only that of a failure; and none for a statement of `log_handler`. -/
def commandLines (s : Session γ β σ) (c : Connection β) (command : Command) (args : List Params) :
    List String :=
  match command.verb with
  | some .logHandler => []
  | some .id | some .transaction | some .commit | some .rollback =>
    failureLines (s.courseFailure? c (s.course command args))
  | _ =>
    match s.course command args with
    | .run sql params reading useCache _ _ =>
      statementLines s.gateway s.cache c sql params reading useCache
    | _ => []

omit [Store σ] in
/-- Only `id` and the steps of a transaction speak to the backend without a statement. -/
theorem verb_of_course {command : Command} {args : List Params}
    (h : s.course command args = .insertId ∨ ∃ step, s.course command args = .transact step) :
    command.verb ∈ [some .id, some .transaction, some .commit, some .rollback] := by
  cases hcompile : command.compile (.resolve command.options) args with
  | ok stmt =>
    have hfate := fate_course (s := s) hcompile
    rcases h with h | ⟨step, h⟩ <;> rw [h] at hfate <;> cases hfate
  | error e =>
    rw [course] at h
    split at h
    · rw [selectCourse, hcompile] at h
      rcases h with h | ⟨step, h⟩ <;> cases h
    · rw [queryCourse, hcompile] at h
      rcases h with h | ⟨step, h⟩ <;> cases h
    · rename_i verb _ hverb
      split at h
      · rw [statementCourse, hcompile] at h
        rcases h with h | ⟨step, h⟩ <;> cases h
      · rcases h with h | ⟨step, h⟩ <;> cases verb <;> cases h <;> simp [hverb]

/-- A statement of `log_handler` is shown, or run with the log off. -/
theorem courseLines_logHandler {command : Command} (h : command.verb = some .logHandler)
    (c : Connection β) (args : List Params) : s.courseLines c (s.course command args) = [] := by
  rw [course, h]
  simp only [Verb.producesSql, if_true, statementCourse]
  cases command.compile (.resolve command.options) args with
  | error e => rfl
  | ok stmt =>
    dsimp only
    split <;> rfl

/-- A command has the lines of its course. -/
theorem courseLines_course (s : Session γ β σ) (c : Connection β) (command : Command)
    (args : List Params) :
    s.courseLines c (s.course command args) = s.commandLines c command args := by
  rw [commandLines]
  split
  case h_1 h => exact courseLines_logHandler h c args
  case h_2 h | h_3 h | h_4 h | h_5 h =>
    rw [course, h]
    rfl
  case h_6 =>
    have hverb : command.verb ∉ [some .id, some .transaction, some .commit, some .rollback] := by
      simp_all
    cases hcourse : s.course command args with
    | settled | run | runUnlogged => rfl
    | insertId => exact absurd (verb_of_course (.inl hcourse)) hverb
    | transact step => exact absurd (verb_of_course (.inr ⟨step, hcourse⟩)) hverb

theorem records_run (hc : s.registry.find? id = some c) (sql : String) (params : Params)
    (reading : Reading) (useCache : Bool) :
    Records id s (s.run id sql params reading useCache).2
      (statementLines s.gateway s.cache c sql params reading useCache) := by
  rw [statementLines, ← errorOf?_dispatch hc]
  exact (records_dispatch hc sql params reading useCache).surface

/-- **With the log off nothing is written down**, and the log is on again afterwards, however the
statement ends. -/
theorem records_runUnlogged (s : Session γ β σ) (id : ConnectionId) (stmt : Statement) :
    Records id s (s.runUnlogged id stmt).2 [] := by
  intro c hc hhandler
  have hoff : (s.setLogging id false).registry.find? id
      = some { c with config := { c.config with logging := false } } := by
    rw [find?_setLogging, hc]
    rfl
  obtain ⟨d, hd, hconfig, hlog⟩ :=
    records_run hoff stmt.sql stmt.params stmt.reading false _ hoff hhandler
  refine ⟨{ d with config := { d.config with logging := c.config.logging } }, ?_, ?_, ?_⟩
  · rw [runUnlogged, hc]
    dsimp only
    rw [orElse_snd, find?_setLogging, runUncached, hd]
    rfl
  · rw [hconfig]
  · rw [ite_self]
    exact hlog

omit [Store σ] in
theorem records_throughLink_surface {α : Type} (hc : s.registry.find? id = some c) (event : Event)
    (op : γ → β → Except Error α × β × γ) :
    Records id s (surface id (s.throughLink id event op)).2
      (failureLines (errorOf? (linkResult s.gateway c op))) := by
  rw [← throughLink_fst hc event op]
  exact (records_throughLink s id event op).surface

theorem records_runCommand (s : Session γ β σ) (command : Command) (args : List Params)
    (hc : s.registry.find? command.connection = some c) :
    Records command.connection s (s.runCommand command args).2 (s.commandLines c command args) := by
  rw [runCommand_eq_follow, ← courseLines_course]
  cases hcourse : s.course command args with
  | settled r after => exact records_settles (settles_course hcourse)
  | run sql params reading useCache neutral finish =>
    rw [follow, orElse_snd]
    exact records_run hc sql params reading useCache
  | runUnlogged stmt => exact records_runUnlogged s command.connection stmt
  | insertId =>
    rw [follow, insertId, orElse_snd]
    exact records_throughLink_surface hc _ _
  | transact step =>
    rw [follow, transaction, orElse_snd]
    exact records_throughLink_surface hc _ _

/-! ## Calls -/

/-- **The lines of a call** on a connection: those of its command, if it names the connection. -/
def callLines (s : Session γ β σ) (id : ConnectionId) (call : Call) : List String :=
  match s.tokenize call.command, s.registry.find? id with
  | .ok command, some c =>
    if command.connection = id then s.commandLines c command call.args else []
  | _, _ => []

theorem callLines_of_tokenize {call : Call} {command : Command}
    (h : s.tokenize call.command = .ok command)
    (hc : s.registry.find? command.connection = some c) :
    s.callLines command.connection call = s.commandLines c command call.args := by
  rw [callLines, h, hc]
  exact if_pos rfl

/-- **A call writes down its lines, and no others.** -/
theorem records_exec (s : Session γ β σ) (id : ConnectionId) (call : Call) :
    Records id s (s.exec call).2 (s.callLines id call) := by
  cases htokenize : s.tokenize call.command with
  | error e =>
    rw [exec, callLines, htokenize]
    exact .refl s
  | ok command =>
    rw [(exec_of_tokenize s htokenize).1]
    by_cases hid : command.connection = id
    · subst hid
      intro c hc
      rw [callLines_of_tokenize htokenize hc]
      exact records_runCommand s command call.args hc c hc
    · have hother := (frame_runCommand s command call.args).registry.others id (Ne.symm hid)
      have hnone : s.callLines id call = [] := by
        rw [callLines, htokenize]
        split
        · rename_i h _
          cases h
          exact if_neg hid
        · rfl
      rw [hnone]
      exact records_of_find? hother

/-- A connection whose log is on, and that has no log handler. -/
def KeepsLog (s : Session γ β σ) (id : ConnectionId) : Prop :=
  ∃ c, s.registry.find? id = some c ∧ c.config.logging = true ∧ c.config.logHandler = none

omit [Gateway γ β] [Store σ] in
theorem Records.logOf (h : Records id s t lines) (hs : s.KeepsLog id) :
    t.logOf id = s.logOf id ++ lines ∧ t.KeepsLog id := by
  obtain ⟨c, hc, hlogging, hhandler⟩ := hs
  obtain ⟨d, hd, hconfig, hlog⟩ := h c hc hhandler
  rw [hlogging, if_pos rfl] at hlog
  refine ⟨?_, d, hd, by rw [hconfig, hlogging], by rw [hconfig, hhandler]⟩
  simp only [Session.logOf, hc, hd, Option.map_some, Option.getD_some, hlog]

/-! ## Runs -/

/-- The session after a run of calls. -/
def execAll (s : Session γ β σ) (calls : List Call) : Session γ β σ :=
  calls.foldl (fun s call => (s.exec call).2) s

/-- The lines of a run. -/
def runLines (id : ConnectionId) : Session γ β σ → List Call → List String
  | _, [] => []
  | s, call :: calls => s.callLines id call ++ runLines id (s.exec call).2 calls

/-- **A run writes down the lines of its calls.** -/
theorem logOf_execAll (hs : s.KeepsLog id) (calls : List Call) :
    (s.execAll calls).logOf id = s.logOf id ++ runLines id s calls ∧
      (s.execAll calls).KeepsLog id := by
  induction calls generalizing s with
  | nil => exact ⟨(List.append_nil _).symm, hs⟩
  | cons call calls ih =>
    obtain ⟨hlog, hkeeps⟩ := (records_exec s id call).logOf hs
    obtain ⟨hrest, hkeeps'⟩ := ih hkeeps
    refine ⟨?_, hkeeps'⟩
    calc (s.execAll (call :: calls)).logOf id
        = (s.exec call).2.logOf id ++ runLines id (s.exec call).2 calls := hrest
      _ = s.logOf id ++ runLines id s (call :: calls) := by rw [hlog, List.append_assoc, runLines]

/-! ## What is sent is written down -/

/-- The SQL of a line that tells of a statement. -/
def querySql? (line : String) : Option String :=
  ("Query: ".toList.isPrefixOf? line.toList).map String.ofList

/-- Whether a call is one of `log_handler`. -/
def isLogHandler (call : Call) : Bool :=
  match Command.parse call.command with
  | .ok c => c.verb == some .logHandler
  | .error _ => false

/-- The SQL that a call sends to the backend of a connection, statements of `log_handler` left
out. -/
def sentSql (s : Session γ β σ) (id : ConnectionId) (call : Call) : List String :=
  if isLogHandler call then []
  else ((s.exec call).2.backendEvents.drop s.backendEvents.length).filterMap (Event.sqlFor? id)

/-- The SQL that a run sends. -/
def runSql (id : ConnectionId) : Session γ β σ → List Call → List String
  | _, [] => []
  | s, call :: calls => s.sentSql id call ++ runSql id (s.exec call).2 calls

omit [Gateway γ β] [Store σ] in
theorem querySql?_queryLine (sql : String) : querySql? (queryLine sql) = some sql := by
  rw [querySql?, queryLine, String.toList_append]
  simp [List.isPrefixOf?]

omit [Gateway γ β] [Store σ] in
theorem selectCourse_ne_runUnlogged (s : Session γ β σ) (command : Command) (options : Options)
    (args : List Params) (stmt : Statement) :
    s.selectCourse command options args ≠ .runUnlogged stmt := by
  intro h
  rw [selectCourse] at h
  split at h
  · cases h
  · split at h
    · split at h
      · cases h
      · split at h
        · cases h
        · split at h <;> cases h
    · split at h
      · cases h
      · split at h
        · cases h
        · split at h <;> cases h

omit [Gateway γ β] [Store σ] in
theorem queryCourse_ne_runUnlogged (s : Session γ β σ) (command : Command) (options : Options)
    (args : List Params) (stmt : Statement) :
    s.queryCourse command options args ≠ .runUnlogged stmt := by
  intro h
  rw [queryCourse] at h
  split at h
  · cases h
  · split at h
    · cases h
    · split at h
      · split at h
        · cases h
        · split at h <;> cases h
      · split at h <;> cases h

omit [Store σ] in
/-- Only a statement of `log_handler` is run with the log off. -/
theorem verb_of_runUnlogged {command : Command} {args : List Params} {stmt : Statement}
    (h : s.course command args = .runUnlogged stmt) : command.verb = some .logHandler := by
  rw [course] at h
  split at h
  · exact absurd h (selectCourse_ne_runUnlogged s command _ args stmt)
  · exact absurd h (queryCourse_ne_runUnlogged s command _ args stmt)
  · rename_i verb _ hverb
    split at h
    · rw [statementCourse] at h
      split at h
      · cases h
      · split at h
        · cases h
        · cases verb <;> cases h
          exact hverb
    · cases verb <;> cases h

omit [Store σ] in
/-- The verb of a call does not change while its command is narrowed to a row. -/
theorem isLogHandler_of_tokenize {call : Call} {command : Command}
    (h : s.tokenize call.command = .ok command) :
    isLogHandler call = (command.verb == some .logHandler) := by
  rw [tokenize] at h
  split at h
  · rename_i parsed hparse
    obtain ⟨clause, hscope⟩ := scopeRow_eq parsed (s.keysOf parsed.connection)
      (Gateway.quote s.gateway)
    rw [hscope] at h
    cases h
    rw [isLogHandler, hparse]
  · cases h

/-- **A statement that may be sent is written down first**, unless it is one of `log_handler`. -/
theorem callLines_of_request? {call : Call} {stmt : Statement} (hlog : isLogHandler call = false)
    (hc : s.named? call = some c) (h : s.request? call = some (.statement stmt)) :
    ∃ rest, s.callLines c.id call = queryLine stmt.sql :: rest := by
  rw [request?] at h
  split at h
  · cases h
  · rename_i command htokenize
    rw [named?_of_tokenize htokenize] at hc
    rw [Registry.id_of_find? hc, callLines_of_tokenize htokenize hc, ← courseLines_course]
    cases hcourse : s.course command call.args with
    | run sql params reading useCache neutral finish =>
      rw [hcourse] at h
      cases h
      exact ⟨_, rfl⟩
    | runUnlogged stmt' =>
      rw [isLogHandler_of_tokenize htokenize, verb_of_runUnlogged hcourse] at hlog
      cases hlog
    | settled | insertId | transact =>
      rw [hcourse] at h
      cases h

/-- What a request sends is written down. -/
theorem sqlFor?_sublist {call : Call} {request : Request} (hlog : isLogHandler call = false)
    (hc : s.named? call = some c) (h : s.request? call = some request) (id : ConnectionId) :
    List.Sublist ([request.event c.id].filterMap (Event.sqlFor? id))
      ((s.callLines id call).filterMap querySql?) := by
  cases request with
  | statement stmt =>
    obtain ⟨rest, hrest⟩ := callLines_of_request? hlog hc h
    have hsql : (Request.event c.id (.statement stmt)).sqlFor? id
        = if c.id = id then some stmt.sql else none := by
      rw [Request.event]
      split <;> rfl
    rw [List.filterMap_cons, hsql]
    by_cases hid : c.id = id
    · rw [if_pos hid, ← hid, hrest, List.filterMap_cons, querySql?_queryLine]
      exact List.singleton_sublist.mpr List.mem_cons_self
    · rw [if_neg hid]
      exact List.nil_sublist _
  | lastInsertId | transaction => exact List.nil_sublist _

/-- **What a call sends is written down.** -/
theorem sentSql_sublist (s : Session γ β σ) (id : ConnectionId) (call : Call) :
    List.Sublist (s.sentSql id call) ((s.callLines id call).filterMap querySql?) := by
  cases hlog : isLogHandler call with
  | true =>
    rw [sentSql, hlog]
    exact List.nil_sublist _
  | false =>
    have hexchange := exchange_contacts s call
    rw [sentSql, hlog, (contacted_exec s call).trace, List.drop_left]
    generalize s.contacts call = history at hexchange
    cases hexchange with
    | quiet | refused => exact List.nil_sublist _
    | asked c request hc _ hrequest => exact sqlFor?_sublist hlog hc hrequest id
    | opened c logging link request hc _ _ hrequest => exact sqlFor?_sublist hlog hc hrequest id

/-- **What a run sends is written down, in order.** -/
theorem runSql_sublist (id : ConnectionId) (s : Session γ β σ) (calls : List Call) :
    List.Sublist (runSql id s calls) ((runLines id s calls).filterMap querySql?) := by
  induction calls generalizing s with
  | nil => exact List.nil_sublist _
  | cons call calls ih =>
    rw [runSql, runLines, List.filterMap_append]
    exact (sentSql_sublist s id call).append (ih (s.exec call).2)

/-! ## The record -/

/-- **The log of a connection is a faithful record of a run.** -/
structure FaithfulLog (s : Session γ β σ) (id : ConnectionId) (calls : List Call) : Prop where
  /-- Each call writes down its lines, and nothing else is written down. -/
  each : ∀ before call after, calls = before ++ call :: after →
    ((s.execAll before).exec call).2.logOf id
      = (s.execAll before).logOf id ++ (s.execAll before).callLines id call
  /-- So the log grows by the lines of the run… -/
  log : (s.execAll calls).logOf id = s.logOf id ++ runLines id s calls
  /-- …among which, in order, is all the SQL that the backend got, save that of `log_handler`. -/
  sent : List.Sublist (runSql id s calls) ((runLines id s calls).filterMap querySql?)

/-- **The log is a faithful record**, of every run and for every connection whose log is on and that
has no log handler. -/
theorem log_records_every_run (s : Session γ β σ) (id : ConnectionId) (hs : s.KeepsLog id)
    (calls : List Call) : FaithfulLog s id calls := by
  refine ⟨fun before call _ _ => ?_, (logOf_execAll hs calls).1, runSql_sublist id s calls⟩
  exact ((records_exec (s.execAll before) id call).logOf (logOf_execAll hs before).2).1

end Commands

/-- Rows that are fetched and kept, a statement of `log_handler`, one with a value, a raw value that
is refused, and a step of a transaction. -/
theorem log_records_every_run_refused :
    let config : ConnectionConfig := { host := "h", database := "d", user := "u", password := "" }
    let s : Session Counting Unit MemoryStore :=
      { gateway := {}, registry := { connections := [{ id := 1, config, log := ["old"] }] }
        cache := some { store := {}, clock := .manual 1000 0, key := some "k" } }
    let calls : List Call :=
      [{ command := "users/cache" },
        { command := "lines:log_handler", args := [.named ⟨[("a", .int 1)]⟩] },
        { command := "users:del WHERE a = :a", args := [.named ⟨[("a", .int 1)]⟩] },
        { command := ":query SELECT :a", args := [.named ⟨[("a", .raw "NOW()")]⟩] },
        { command := ":commit" }]
    (s.execAll calls).logOf 1
        = ["old", "Query: SELECT * FROM users", "(Cache write: k)",
            "Query: DELETE FROM users WHERE a = :a", "(Query params: a => 1)",
            "Query: SELECT :a", "Error: Invalid query parameter 'a': raw SQL cannot be bound " ++
              "(only bind scalar values)"] ∧
      runSql 1 s calls = ["SELECT * FROM users", "DELETE FROM users WHERE a = :a"] := by
  intro config s calls
  have hlines : runLines 1 s calls
      = ["Query: SELECT * FROM users", "(Cache write: k)",
          "Query: DELETE FROM users WHERE a = :a", "(Query params: a => 1)",
          "Query: SELECT :a", "Error: Invalid query parameter 'a': raw SQL cannot be bound " ++
            "(only bind scalar values)"] := by decide +kernel
  have hfaithful := log_records_every_run s 1 ⟨{ id := 1, config, log := ["old"] }, rfl, rfl, rfl⟩
    calls
  refine ⟨?_, by decide +kernel⟩
  rw [hfaithful.log, hlines]
  rfl

end Session

end SqlShorthand
