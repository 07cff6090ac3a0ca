import SqlShorthand.Proofs.Session.Course
import SqlShorthand.Proofs.Session.Work

/-!
# Proofs/Session/Surfacing — who hears of a failure

A recordable failure is noted on its connection exactly once, whatever verb met it, and goes back to
the caller only where the connection surfaces errors and has no handler for them; every other failure
goes back and leaves no trace.  The parts:

* `failure?` — the failure that a call meets, read off the answers of gateway and store alone, in
  the order in which they are asked; `errorOf?_dispatch` ties it to the run of a statement.
* `policed_surface` — the policy, at the one place that applies it.
* `policed_runCommand` — every course of a command applies it once (`Policed`).

The log switched off by a logging statement changes none of this: what is noted does not depend on
the log.
-/

namespace SqlShorthand

/-- The error of a result. -/
def errorOf? {α : Type} : Except Error α → Option Error
  | .ok _ => none
  | .error e => some e

namespace Session

variable {γ β σ : Type}

/-! ## The failure that arises

What can fail, in order: a raw value is refused, the cache is missing, the link cannot be opened, the
backend refuses the statement, the cache cannot keep the rows.  A cache that cannot be read is no
failure but a miss. -/

section Failures

variable [Gateway γ β]

/-- What an operation gives through a connection's link, which is opened first if it is not open. -/
def linkResult {α : Type} (g : γ) (c : Connection β) (op : γ → β → Except Error α × β × γ) :
    Except Error α :=
  match c.link with
  | some link => (op g link).1
  | none =>
    match Gateway.connect g c.config with
    | (.ok link, g) => (op g link).1
    | (.error e, _) => .error e

variable [Store σ]

/-- The rows under a key if a fresh entry holds a list, and the cache after the look-up. -/
def cachedRows? (cache : Cache σ) (key : String) : Option (List Json) × Cache σ :=
  match cache.has key with
  | (false, cache) => (none, cache)
  | (true, cache) =>
    match cache.read key with
    | (.ok (.arr rows), cache) => (some rows, cache)
    | (_, cache) => (none, cache)

/-- The failure of a statement that is sent, its rows kept under `key` if there is one. -/
def sendFailure? (g : γ) (cache : Option (Cache σ)) (c : Connection β) (sql : String)
    (params : Params) (reading : Reading) (key : Option String) : Option Error :=
  match reading.shape sql with
  | .rows =>
    match linkResult g c fun g link => Gateway.fetch g link sql params with
    | .error e => some e
    | .ok rows =>
      match key, cache with
      | some key, some cache => errorOf? (cache.write key (.arr (rows.map Json.obj))).1
      | _, _ => none
  | _ => errorOf? (linkResult g c fun g link => Gateway.execute g link sql params)

/-- The failure of a statement on a connection. -/
def statementFailure? (g : γ) (cache : Option (Cache σ)) (c : Connection β) (sql : String)
    (params : Params) (reading : Reading) (useCache : Bool) : Option Error :=
  match params.ensureBindable with
  | .error e => some e
  | .ok () =>
    if useCache then
      match cache with
      | none => some (.settings "CACHE option used without a configured cache")
      | some cache =>
        let key := cache.keyFor c.id sql params
        match cachedRows? cache key with
        | (some _, _) => none
        | (none, cache) => sendFailure? g (some cache) c sql params reading (some key)
    else sendFailure? g cache c sql params reading none

/-- The failure that a course meets on a connection. -/
def courseFailure? (s : Session γ β σ) (c : Connection β) : Course γ β σ → Option Error
  | .settled _ _ => none
  | .run sql params reading useCache _ _ =>
    statementFailure? s.gateway s.cache c sql params reading useCache
  | .runUnlogged stmt =>
    statementFailure? s.gateway s.cache { c with config := { c.config with logging := false } }
      stmt.sql stmt.params stmt.reading false
  | .insertId => errorOf? (linkResult s.gateway c fun g link => Gateway.lastInsertId g link)
  | .transact step => errorOf? (linkResult s.gateway c fun g link => Gateway.transact g link step)

/-- **The failure that a call meets on its connection**, if that is registered. -/
def failure? (s : Session γ β σ) (call : Call) : Option Error :=
  match s.tokenize call.command with
  | .error _ => none
  | .ok c =>
    match s.registry.find? c.connection with
    | none => none
    | some conn => s.courseFailure? conn (s.course c call.args)

end Failures

/-! ## The failure is the one that the run gives -/

@[simp] theorem pushLog_gateway (s : Session γ β σ) (id : ConnectionId) (line : String) :
    (s.pushLog id line).gateway = s.gateway := by
  rw [pushLog]; split <;> rfl

@[simp] theorem pushLog_cache (s : Session γ β σ) (id : ConnectionId) (line : String) :
    (s.pushLog id line).cache = s.cache := by
  rw [pushLog]; split <;> rfl

theorem find?_pushLog {s : Session γ β σ} {id : ConnectionId} {c : Connection β}
    (hc : s.registry.find? id = some c) (line : String) :
    (s.pushLog id line).registry.find? id = some (c.pushLog line) := by
  rw [find?_pushLog_self, hc]
  rfl

section Caches

variable [Store σ]

theorem lookUp_eq (s : Session γ β σ) (id : ConnectionId) (sql : String) (params : Params)
    {cache : Cache σ} (h : s.cache = some cache) :
    s.lookUp id sql params
      = (.ok (cache.keyFor id sql params, (cachedRows? cache (cache.keyFor id sql params)).1),
         { s with cache := some (cachedRows? cache (cache.keyFor id sql params)).2 }) := by
  simp only [lookUp, h, cachedRows?]
  obtain ⟨fresh, after⟩ := cache.has (cache.keyFor id sql params)
  cases fresh with
  | false => rfl
  | true =>
    dsimp only
    obtain ⟨value, last⟩ := after.read (cache.keyFor id sql params)
    cases value with
    | error e => rfl
    | ok v => cases v <;> rfl

end Caches

section Results

variable [Gateway γ β] {s : Session γ β σ} {id : ConnectionId} {c : Connection β}

theorem throughLink_fst {α : Type} (hc : s.registry.find? id = some c) (event : Event)
    (op : γ → β → Except Error α × β × γ) :
    (s.throughLink id event op).1 = linkResult s.gateway c op := by
  rw [throughLink, hc]
  simp only [openLink, linkResult]
  cases c.link with
  | some link => rfl
  | none =>
    obtain ⟨r, g⟩ := Gateway.connect s.gateway c.config
    cases r <;> rfl

theorem openLink_cache (s : Session γ β σ) (c : Connection β) :
    (s.openLink c).2.cache = s.cache := by
  rw [openLink]
  split
  · rfl
  · dsimp only
    split <;> rfl

theorem throughLink_cache {α : Type} (s : Session γ β σ) (id : ConnectionId) (event : Event)
    (op : γ → β → Except Error α × β × γ) : (s.throughLink id event op).2.cache = s.cache := by
  rw [throughLink]
  split
  · rfl
  · rename_i c _
    have hopen := openLink_cache s c
    split
    · rename_i h
      rwa [h] at hopen
    · rename_i h
      rwa [h] at hopen

theorem linkResult_pushLog {α : Type} (g : γ) (c : Connection β) (line : String)
    (op : γ → β → Except Error α × β × γ) : linkResult g (c.pushLog line) op = linkResult g c op := by
  simp only [linkResult, Connection.pushLog_link, Connection.pushLog_config]

variable [Store σ]

theorem sendFailure?_pushLog (g : γ) (cache : Option (Cache σ)) (c : Connection β) (line sql : String)
    (params : Params) (reading : Reading) (key : Option String) :
    sendFailure? g cache (c.pushLog line) sql params reading key
      = sendFailure? g cache c sql params reading key := by
  simp only [sendFailure?, linkResult_pushLog]

theorem statementFailure?_pushLog (g : γ) (cache : Option (Cache σ)) (c : Connection β)
    (line sql : String) (params : Params) (reading : Reading) (useCache : Bool) :
    statementFailure? g cache (c.pushLog line) sql params reading useCache
      = statementFailure? g cache c sql params reading useCache := by
  simp only [statementFailure?, sendFailure?_pushLog, Connection.pushLog_id]

/-- A statement that is sent fails as `sendFailure?` says. -/
theorem errorOf?_send (hc : s.registry.find? id = some c) (sql : String) (params : Params)
    (reading : Reading) (key : Option String) :
    errorOf? (s.send id sql params reading key).1
      = sendFailure? s.gateway s.cache c sql params reading key := by
  have hfetch := throughLink_fst hc (.fetch id sql params) fun g link =>
    Gateway.fetch g link sql params
  have hcache := throughLink_cache s id (.fetch id sql params) fun g link =>
    Gateway.fetch g link sql params
  have hexecute := throughLink_fst hc (.execute id sql params) fun g link =>
    Gateway.execute g link sql params
  cases hshape : reading.shape sql with
  | rows =>
    simp only [send, sendFailure?, hshape, ← hfetch]
    generalize s.throughLink id (.fetch id sql params) _ = fetched at hcache
    obtain ⟨r, t⟩ := fetched
    cases r with
    | error e => rfl
    | ok rows =>
      cases key with
      | none => rfl
      | some key =>
        simp only at hcache
        simp only [keep, pushLog_cache, hcache]
        cases s.cache with
        | none => rfl
        | some cache =>
          dsimp only
          obtain ⟨written, after⟩ := cache.write key (.arr (rows.map Json.obj))
          cases written <;> rfl
  | affected =>
    simp only [send, sendFailure?, hshape, ← hexecute]
    obtain ⟨r, t⟩ := s.throughLink id (.execute id sql params) fun g link =>
      Gateway.execute g link sql params
    cases r <;> rfl
  | done =>
    simp only [send, sendFailure?, hshape, ← hexecute]
    obtain ⟨r, t⟩ := s.throughLink id (.execute id sql params) fun g link =>
      Gateway.execute g link sql params
    cases r <;> rfl

theorem errorOf?_answer (hc : s.registry.find? id = some c) (sql : String) {params : Params}
    (hparams : params.ensureBindable = .ok ()) (reading : Reading) (useCache : Bool) :
    errorOf? (s.answer id sql params reading useCache).1
      = statementFailure? s.gateway s.cache c sql params reading useCache := by
  simp only [answer, statementFailure?, hparams]
  split
  · cases hcache : s.cache with
    | none =>
      rw [lookUp, hcache]
      rfl
    | some cache =>
      rw [lookUp_eq s id sql params hcache, Registry.id_of_find? hc]
      dsimp only
      obtain ⟨rows, after⟩ := cachedRows? cache (cache.keyFor id sql params)
      cases rows with
      | some rows => rfl
      | none =>
        exact errorOf?_send (s := { s with cache := some after }) hc sql params reading _
  · exact errorOf?_send hc sql params reading none

/-- Values that are not there cannot be raw. -/
theorem ensureBindable_of_isEmpty {params : Params} (h : params.isEmpty = true) :
    params.ensureBindable = .ok () := by
  have hlabelled : params.labelled = [] := by
    cases params with
    | none => rfl
    | named r => exact List.isEmpty_iff.mp h
    | positional vs =>
      obtain rfl := List.isEmpty_iff.mp h
      rfl
  rw [Params.ensureBindable, hlabelled]
  rfl

/-- **A statement fails as `statementFailure?` says.** -/
theorem errorOf?_dispatch (hc : s.registry.find? id = some c) (sql : String) (params : Params)
    (reading : Reading) (useCache : Bool) :
    errorOf? (s.dispatch id sql params reading useCache).1
      = statementFailure? s.gateway s.cache c sql params reading useCache := by
  have hquery := find?_pushLog hc (queryLine sql)
  rw [dispatch, Registry.contains_eq_true hc]
  simp only [Bool.not_true, Bool.false_eq_true, if_false]
  split
  · rw [errorOf?_answer hquery sql (ensureBindable_of_isEmpty ‹_›), pushLog_gateway, pushLog_cache,
      statementFailure?_pushLog]
  · split
    · rename_i h
      simp only [statementFailure?, h]
      rfl
    · rename_i h
      rw [errorOf?_answer (find?_pushLog hquery _) sql h]
      simp only [pushLog_gateway, pushLog_cache, statementFailure?_pushLog]

end Results

/-! ## What is noted -/

variable {id : ConnectionId}

/-- The last error of a connection. -/
def lastErrorOf (s : Session γ β σ) (id : ConnectionId) : Option String :=
  (s.registry.find? id).bind (·.lastError)

/-- The log of a connection. -/
def logOf (s : Session γ β σ) (id : ConnectionId) : List String :=
  ((s.registry.find? id).map (·.log)).getD []

/-- The calls of error handlers among events: whose handler, and with what message. -/
def notices (events : List Event) : List (ConnectionId × String) :=
  events.filterMap fun
    | .errorNotice id message => some (id, message)
    | _ => none

/-- **An error was noted** on a connection: it is the last error, and handlers were called for it
once or not at all. -/
structure Noted (id : ConnectionId) (s t : Session γ β σ) (message : String) (notify : Bool) :
    Prop where
  lastError : t.lastErrorOf id = some message
  handlers : ∃ events, t.trace = s.trace ++ events ∧
    notices events = if notify then [(id, message)] else []

/-- **No error was noted** on a connection: the last error is the one before, no error line was
logged, and no handler heard of an error. -/
structure Unnoted (id : ConnectionId) (s t : Session γ β σ) : Prop where
  lastError : t.lastErrorOf id = s.lastErrorOf id
  log : ∃ lines, t.logOf id = s.logOf id ++ lines ∧ ∀ line ∈ lines, ¬IsErrorLine line
  handlers : ∃ events, t.trace = s.trace ++ events ∧ ∀ event ∈ events, ¬event.TellsError

/-- **The policy of a connection was applied** between two sessions to the failure that arose,
with this error going back. -/
structure Policed (id : ConnectionId) (config : ConnectionConfig) (s t : Session γ β σ)
    (failure returned : Option Error) : Prop where
  noted : ∀ e, failure = some e → e.recordable = true →
    Noted id s t e.message (config.surfaceErrors && config.errorHandler) ∧
      returned = if config.surfaceErrors && !config.errorHandler then some e else none
  unnoted : (∀ e, failure = some e → e.recordable = false) →
    Unnoted id s t ∧ ∀ e, returned = some e → e.recordable = false

theorem notices_append (events events' : List Event) :
    notices (events ++ events') = notices events ++ notices events' := by
  rw [notices, List.filterMap_append]
  rfl

/-- Events that tell of no error call no error handler. -/
theorem notices_eq_nil {events : List Event} (h : ∀ event ∈ events, ¬event.TellsError) :
    notices events = [] := by
  refine List.filterMap_eq_nil_iff.mpr fun event hevent => ?_
  cases event with
  | errorNotice id message => exact absurd trivial (h _ hevent)
  | _ => rfl

theorem notices_lineEvents (c : Connection β) (line : String) : notices (c.lineEvents line) = [] := by
  rw [Connection.lineEvents]
  split <;> rfl

theorem Work.unnoted {s t : Session γ β σ} (h : Work id s t) {c : Connection β}
    (hc : s.registry.find? id = some c) : Unnoted id s t := by
  obtain ⟨d, hd, hext⟩ := h.connection hc
  obtain ⟨lines, hlog, hlines⟩ := hext.log
  refine ⟨?_, ⟨lines, ?_, hlines⟩, h.trace⟩
  · simp only [lastErrorOf, hc, hd, Option.bind_some, hext.lastError]
  · simp only [logOf, hc, hd, Option.map_some, Option.getD_some, hlog]

theorem recordError_id (c : Connection β) (message : String) : (c.recordError message).id = c.id :=
  Connection.pushLog_id c _

/-- Noting an error notes it, and tells the handler if it is to be told. -/
theorem noted_noteError {s t : Session γ β σ} (hwork : Work id s t) {d : Connection β}
    (hd : t.registry.find? id = some d) (message : String) (notify : Bool) :
    Noted id s (t.noteError d message notify) message notify := by
  have hid : d.id = id := Registry.id_of_find? hd
  obtain ⟨events, htrace, hfine⟩ := hwork.trace
  refine ⟨?_, events ++ (d.lineEvents (Connection.errorLine message) ++
    (if notify then [.errorNotice d.id message] else [])), ?_, ?_⟩
  · have hfind : (t.noteError d message notify).registry.find? id = some (d.recordError message) := by
      rw [noteError, hid, Registry.find?_modify_self _ fun c => recordError_id c message, hd]
      rfl
    rw [lastErrorOf, hfind]
    rfl
  · rw [noteError, htrace]
    simp only [List.append_assoc]
  · rw [notices_append, notices_append, notices_eq_nil hfine, notices_lineEvents, hid]
    cases notify <;> rfl

/-- **The policy, at the place that applies it**: after any work on a registered connection. -/
theorem policed_surface {s t : Session γ β σ} {α : Type} {c : Connection β}
    (hc : s.registry.find? id = some c) (hwork : Work id s t) (r : Except Error α) :
    Policed id c.config s (surface id (r, t)).2 (errorOf? r) (errorOf? (surface id (r, t)).1) := by
  obtain ⟨d, hd, hext⟩ := hwork.connection hc
  cases r with
  | ok a =>
    refine ⟨fun e he => ?_, fun _ => ⟨hwork.unnoted hc, fun e he => ?_⟩⟩
    · cases he
    · cases he
  | error e =>
    cases hrec : e.recordable with
    | false =>
      have hsurface : surface (α := α) id (.error e, t) = (.error e, t) := by
        simp only [surface, hrec, Bool.not_false, if_true]
      rw [hsurface]
      refine ⟨fun e' he hrec' => ?_, fun _ => ⟨hwork.unnoted hc, fun e' he => ?_⟩⟩
      · cases he
        rw [hrec] at hrec'
        cases hrec'
      · cases he
        exact hrec
    | true =>
      refine ⟨fun e' he _ => ?_, fun h => ?_⟩
      · obtain rfl := Option.some.inj he
        have hnoted := noted_noteError hwork hd e.message
          (d.config.surfaceErrors && d.config.errorHandler)
        simp only [surface, hrec, hd, Bool.not_true, Bool.false_eq_true, if_false]
        rw [hext.config] at hnoted ⊢
        split
        · exact ⟨hnoted, rfl⟩
        · exact ⟨hnoted, rfl⟩
      · rw [h e rfl] at hrec
        cases hrec

/-- An error goes back under the policy for one of two reasons: it is the failure and the
connection surfaces it, or it is not recordable. -/
theorem Policed.of_returned {s t : Session γ β σ} {config : ConnectionConfig}
    {failure : Option Error} {e : Error} (h : Policed id config s t failure (some e)) :
    (failure = some e ∧ config.surfaceErrors = true ∧ config.errorHandler = false) ∨
      (e.recordable = false ∧ ∀ e', failure = some e' → e'.recordable = false) := by
  by_cases hfailure : ∃ e', failure = some e' ∧ e'.recordable = true
  · obtain ⟨e', hsome, hrec⟩ := hfailure
    have hreturned := (h.noted e' hsome hrec).2
    split at hreturned
    · rename_i hpolicy
      rw [Bool.and_eq_true, Bool.not_eq_true'] at hpolicy
      exact .inl ⟨hsome.trans hreturned.symm, hpolicy⟩
    · cases hreturned
  · have hfine : ∀ e', failure = some e' → e'.recordable = false := by
      intro e' hsome
      cases hrec : e'.recordable with
      | false => rfl
      | true => exact absurd ⟨e', hsome, hrec⟩ hfailure
    exact .inr ⟨(h.unnoted hfine).2 e rfl, hfine⟩

/-! ## Every course applies the policy once -/

theorem errorOf?_eq_some {α : Type} {r : Except Error α} {e : Error} :
    errorOf? r = some e ↔ r = .error e := by
  cases r with
  | ok a => exact ⟨nofun, nofun⟩
  | error e' => exact ⟨fun h => congrArg _ (Option.some.inj h), fun h => congrArg _ h⟩

theorem orElse_snd {α : Type} (neutral : Output) (f : α → Output)
    (r : Except Error (Option α) × Session γ β σ) : (orElse neutral f r).2 = r.2 := by
  obtain ⟨r, t⟩ := r
  rcases r with e | _ | a <;> rfl

theorem errorOf?_orElse {α : Type} (neutral : Output) (f : α → Output)
    (r : Except Error (Option α) × Session γ β σ) :
    errorOf? (orElse neutral f r).1 = errorOf? r.1 := by
  obtain ⟨r, t⟩ := r
  rcases r with e | _ | a <;> rfl

/-- What is noted is read off three views of the later session. -/
theorem Unnoted.of_eq {s t : Session γ β σ} (hlast : t.lastErrorOf id = s.lastErrorOf id)
    (hlog : t.logOf id = s.logOf id) (htrace : t.trace = s.trace) : Unnoted id s t := by
  refine ⟨hlast, ⟨[], ?_, fun _ h => absurd h List.not_mem_nil⟩,
    ⟨[], ?_, fun _ h => absurd h List.not_mem_nil⟩⟩
  · rw [hlog, List.append_nil]
  · rw [htrace, List.append_nil]

theorem policed_settled {s after : Session γ β σ} {c : Command} {conn : Connection β}
    {r : Except Error Output} (hc : s.registry.find? c.connection = some conn)
    (h : Settles s c r after) :
    Policed c.connection conn.config s after none (errorOf? r) := by
  refine ⟨nofun, fun _ => ?_⟩
  cases h with
  | refused e hclass =>
    refine ⟨.of_eq rfl rfl rfl, fun e' he => ?_⟩
    cases he
    rcases hclass with hclass | hclass
    · rw [Error.recordable, hclass]
      rfl
    · rw [Error.recordable, hclass]
      rfl
  | unknown hnone =>
    rw [hc] at hnone
    cases hnone
  | told o => exact ⟨.of_eq rfl rfl rfl, nofun⟩
  | keys o keys =>
    have hid : ∀ d : Connection β, { d with keys }.id = d.id := fun _ => rfl
    refine ⟨.of_eq ?_ ?_ rfl, nofun⟩
    · rw [lastErrorOf, Registry.find?_modify_self _ hid, hc, lastErrorOf, hc]
      rfl
    · rw [logOf, Registry.find?_modify_self _ hid, hc, logOf, hc]
      rfl
  | expiry e cache => exact ⟨.of_eq rfl rfl rfl, nofun⟩
  | paging p => exact ⟨.of_eq rfl rfl rfl, nofun⟩

section Switch

theorem find?_setLogging (s : Session γ β σ) (on : Bool) :
    (s.setLogging id on).registry.find? id
      = (s.registry.find? id).map fun c => { c with config := { c.config with logging := on } } :=
  Registry.find?_modify_self s.registry fun _ => rfl

theorem lastErrorOf_setLogging (s : Session γ β σ) (on : Bool) :
    (s.setLogging id on).lastErrorOf id = s.lastErrorOf id := by
  rw [lastErrorOf, find?_setLogging, lastErrorOf]
  cases s.registry.find? id <;> rfl

theorem logOf_setLogging (s : Session γ β σ) (on : Bool) :
    (s.setLogging id on).logOf id = s.logOf id := by
  rw [logOf, find?_setLogging, logOf]
  cases s.registry.find? id <;> rfl

/-- **The policy does not see the switch of the log**: it holds between two sessions if it holds
between them with the log switched. -/
theorem Policed.of_setLogging {s t : Session γ β σ} {on on' : Bool} {config : ConnectionConfig}
    {failure returned : Option Error}
    (h : Policed id { config with logging := on } (s.setLogging id on) t failure returned) :
    Policed id config s (t.setLogging id on') failure returned := by
  refine ⟨fun e he hrec => ?_, fun hfine => ?_⟩
  · obtain ⟨hnoted, hreturned⟩ := h.noted e he hrec
    refine ⟨⟨?_, hnoted.handlers⟩, hreturned⟩
    rw [lastErrorOf_setLogging, hnoted.lastError]
  · obtain ⟨hunnoted, hreturned⟩ := h.unnoted hfine
    refine ⟨⟨?_, ?_, hunnoted.handlers⟩, hreturned⟩
    · rw [lastErrorOf_setLogging, hunnoted.lastError, lastErrorOf_setLogging]
    · have hlog := hunnoted.log
      rwa [logOf_setLogging] at hlog ⊢

end Switch

section Courses

variable [Gateway γ β] {s : Session γ β σ} {c : Connection β}

theorem policed_throughLink (hc : s.registry.find? id = some c) {α : Type} {event : Event}
    (hevent : IsOperation id event) (op : γ → β → Except Error α × β × γ) :
    Policed id c.config s (surface id (s.throughLink id event op)).2
      (errorOf? (linkResult s.gateway c op))
      (errorOf? (surface id (s.throughLink id event op)).1) := by
  rw [← throughLink_fst hc event op]
  exact policed_surface hc (work_throughLink s hevent op) (s.throughLink id event op).1

variable [Store σ]

theorem policed_run (hc : s.registry.find? id = some c) (sql : String) (params : Params)
    (reading : Reading) (useCache : Bool) :
    Policed id c.config s (s.run id sql params reading useCache).2
      (statementFailure? s.gateway s.cache c sql params reading useCache)
      (errorOf? (s.run id sql params reading useCache).1) := by
  rw [← errorOf?_dispatch hc]
  exact policed_surface hc (work_dispatch s sql params reading useCache)
    (s.dispatch id sql params reading useCache).1

theorem policed_runUnlogged (hc : s.registry.find? id = some c) (stmt : Statement) :
    Policed id c.config s (s.runUnlogged id stmt).2
      (s.courseFailure? c (.runUnlogged stmt)) (errorOf? (s.runUnlogged id stmt).1) := by
  have hoff : (s.setLogging id false).registry.find? id
      = some { c with config := { c.config with logging := false } } := by
    rw [find?_setLogging, hc]
    rfl
  have h := policed_run hoff stmt.sql stmt.params stmt.reading false
  rw [runUnlogged, hc]
  dsimp only
  rw [orElse_snd, errorOf?_orElse]
  exact h.of_setLogging

/-- **Every command of a registered connection applies the policy once.** -/
theorem policed_runCommand (s : Session γ β σ) (c : Command) (args : List Params)
    {conn : Connection β} (hc : s.registry.find? c.connection = some conn) :
    Policed c.connection conn.config s (s.runCommand c args).2
      (s.courseFailure? conn (s.course c args)) (errorOf? (s.runCommand c args).1) := by
  rw [runCommand_eq_follow]
  cases hcourse : s.course c args with
  | settled r after => exact policed_settled hc (settles_course hcourse)
  | run sql params reading useCache neutral finish =>
    rw [follow, orElse_snd, errorOf?_orElse]
    exact policed_run hc sql params reading useCache
  | runUnlogged stmt => exact policed_runUnlogged hc stmt
  | insertId =>
    rw [follow, insertId, orElse_snd, errorOf?_orElse]
    exact policed_throughLink hc .lastInsertId _
  | transact step =>
    rw [follow, transaction, orElse_snd, errorOf?_orElse]
    exact policed_throughLink hc (.transaction step) _

/-! ## A connection that is not registered -/

/-- The one error that an unknown connection causes; everything else stays as it is. -/
structure Refused (id : ConnectionId) (s t : Session γ β σ) (returned : Option Error) : Prop where
  registry : t.registry = s.registry
  trace : t.trace = s.trace
  returned : ∀ e, returned = some e → e.recordable = true → e = .unknownConnection id

omit [Gateway γ β] [Store σ] in
theorem refused_surface {α : Type} (hc : s.registry.find? id = none) :
    Refused id s (surface (α := α) id (.error (.unknownConnection id), s)).2
      (errorOf? (surface (α := α) id (.error (.unknownConnection id), s)).1) := by
  have hsurface : surface (α := α) id (.error (.unknownConnection id), s)
      = (.error (.unknownConnection id), s) := by
    simp only [surface, hc]
    rfl
  rw [hsurface]
  exact ⟨rfl, rfl, fun e he _ => (Option.some.inj he).symm⟩

omit [Store σ] in
theorem refused_throughLink (hc : s.registry.find? id = none) {α : Type} (event : Event)
    (op : γ → β → Except Error α × β × γ) :
    Refused id s (surface id (s.throughLink id event op)).2
      (errorOf? (surface id (s.throughLink id event op)).1) := by
  rw [throughLink, hc]
  exact refused_surface hc

theorem refused_run (hc : s.registry.find? id = none) (sql : String) (params : Params)
    (reading : Reading) (useCache : Bool) :
    Refused id s (s.run id sql params reading useCache).2
      (errorOf? (s.run id sql params reading useCache).1) := by
  rw [run, dispatch, Registry.contains_eq_false hc]
  exact refused_surface hc

omit [Store σ] in
/-- A course that is settled without the connection changes no connection. -/
theorem refused_settled {c : Command} {args : List Params} {r : Except Error Output}
    {after : Session γ β σ} (hc : s.registry.find? c.connection = none)
    (hcourse : s.course c args = .settled r after) : Refused c.connection s after (errorOf? r) := by
  cases settles_course hcourse with
  | refused e hclass =>
    refine ⟨rfl, rfl, fun e' he hrec => ?_⟩
    obtain rfl := Option.some.inj he
    rw [Error.recordable] at hrec
    rcases hclass with hclass | hclass
    · rw [hclass] at hrec
      cases hrec
    · rw [hclass] at hrec
      cases hrec
  | unknown _ => exact ⟨rfl, rfl, fun e he _ => (Option.some.inj he).symm⟩
  | told o => exact ⟨rfl, rfl, nofun⟩
  | keys o keys hverb conn hconn =>
    rw [hc] at hconn
    cases hconn
  | expiry e cache => exact ⟨rfl, rfl, nofun⟩
  | paging p => exact ⟨rfl, rfl, nofun⟩

/-- **A command for an unknown connection changes no connection and tells nobody.** -/
theorem refused_runCommand (s : Session γ β σ) (c : Command) (args : List Params)
    (hc : s.registry.find? c.connection = none) :
    Refused c.connection s (s.runCommand c args).2 (errorOf? (s.runCommand c args).1) := by
  rw [runCommand_eq_follow]
  cases hcourse : s.course c args with
  | settled r after => exact refused_settled hc hcourse
  | run sql params reading useCache neutral finish =>
    rw [follow, orElse_snd, errorOf?_orElse]
    exact refused_run hc sql params reading useCache
  | runUnlogged stmt =>
    rw [follow, runUnlogged, hc]
    exact ⟨rfl, rfl, nofun⟩
  | insertId =>
    rw [follow, insertId, orElse_snd, errorOf?_orElse]
    exact refused_throughLink hc _ _
  | transact step =>
    rw [follow, transaction, orElse_snd, errorOf?_orElse]
    exact refused_throughLink hc _ _

/-! ## Every call -/

omit [Store σ] in
theorem tokenize_of_parse (s : Session γ β σ) {text : String} {c : Command}
    (h : Command.parse text = .ok c) :
    ∃ d, s.tokenize text = .ok d ∧ d.connection = c.connection := by
  refine ⟨c.scopeRow (s.keysOf c.connection) (Gateway.quote s.gateway), ?_, ?_⟩
  · rw [tokenize, h]
  · rw [Command.scopeRow]
    split
    · split <;> rfl
    · rfl

/-- Decorating a result changes neither its error nor the session. -/
theorem exec_of_tokenize (s : Session γ β σ) {call : Call} {c : Command}
    (h : s.tokenize call.command = .ok c) :
    (s.exec call).2 = (s.runCommand c call.args).2 ∧
      errorOf? (s.exec call).1 = errorOf? (s.runCommand c call.args).1 := by
  rw [exec, h]
  dsimp only
  obtain ⟨r, t⟩ := s.runCommand c call.args
  cases r with
  | error e => exact ⟨rfl, rfl⟩
  | ok o => cases call.decorator <;> exact ⟨rfl, rfl⟩

/-- **The policy for errors**, between the session before a call and the one after it, on the
connection that the call names.  `failure?` is the failure that arises there. -/
structure ErrorPolicy (s : Session γ β σ) (call : Call) (id : ConnectionId) : Prop where
  /-- A recordable error goes back for two reasons only: the connection is unknown — then no
  connection changes — or it surfaces errors and has no handler. -/
  returned : ∀ e, (s.exec call).1 = .error e → e.recordable = true →
    (s.registry.find? id = none ∧ e = .unknownConnection id ∧
      (s.exec call).2.registry = s.registry) ∨
    ∃ conn, s.registry.find? id = some conn ∧ conn.config.surfaceErrors = true ∧
      conn.config.errorHandler = false
  /-- A recordable failure becomes the last error, and the handler hears of it exactly once if
  errors are surfaced and there is a handler, else not at all. -/
  recorded : ∀ conn e, s.registry.find? id = some conn → s.failure? call = some e →
    e.recordable = true →
    Noted id s (s.exec call).2 e.message (conn.config.surfaceErrors && conn.config.errorHandler)
  /-- An error of another class, or no recordable failure, leaves nothing behind. -/
  silent : (∃ e, (s.exec call).1 = .error e ∧ e.errorClass ∈ [.grammar, .cache, .settings]) ∨
      (∀ e, s.failure? call = some e → e.recordable = false) →
    Unnoted id s (s.exec call).2

theorem recordable_of_errorClass {e : Error} (h : e.errorClass ∈ [.grammar, .cache, .settings]) :
    e.recordable = false := by
  rw [Error.recordable]
  simp only [List.mem_cons, List.not_mem_nil, or_false] at h
  rcases h with h | h | h <;> rw [h] <;> rfl

/-- A refused call follows the policy. -/
theorem errorPolicy_of_refused {call : Call} (hc : s.registry.find? id = none)
    (h : Refused id s (s.exec call).2 (errorOf? (s.exec call).1)) : ErrorPolicy s call id := by
  refine ⟨fun e he hrec => .inl ⟨hc, ?_, h.registry⟩, fun conn e hconn => ?_, fun _ => ?_⟩
  · exact h.returned e (errorOf?_eq_some.mpr he) hrec
  · rw [hc] at hconn
    cases hconn
  · refine .of_eq ?_ ?_ h.trace
    · rw [lastErrorOf, h.registry, lastErrorOf]
    · rw [logOf, h.registry, logOf]

/-- A call that is policed on its connection follows the policy. -/
theorem errorPolicy_of_policed {call : Call} {conn : Connection β}
    (hc : s.registry.find? id = some conn)
    (h : Policed id conn.config s (s.exec call).2 (s.failure? call) (errorOf? (s.exec call).1)) :
    ErrorPolicy s call id := by
  refine ⟨fun e he hrec => .inr ⟨conn, hc, ?_⟩, fun conn' e hconn he hrec => ?_, fun hfine => ?_⟩
  · rw [errorOf?_eq_some.mpr he] at h
    rcases h.of_returned with ⟨_, hpolicy⟩ | ⟨hclass, _⟩
    · exact hpolicy
    · rw [hclass] at hrec
      cases hrec
  · obtain rfl := Option.some.inj (hc.symm.trans hconn)
    exact (h.noted e he hrec).1
  · refine (h.unnoted ?_).1
    rcases hfine with ⟨e, he, hclass⟩ | hfine
    · rw [errorOf?_eq_some.mpr he] at h
      rcases h.of_returned with ⟨hsome, _⟩ | ⟨_, hfine⟩
      · intro e' he'
        obtain rfl := Option.some.inj (hsome.symm.trans he')
        exact recordable_of_errorClass hclass
      · exact hfine
    · exact hfine

/-- **Who hears of a failure**: every call that can be read follows the policy of the connection it
names, whatever gateway and store answer; a call that cannot be read changes nothing. -/
theorem exec_errorPolicy (s : Session γ β σ) (call : Call) :
    (∀ c, Command.parse call.command = .ok c → ErrorPolicy s call c.connection) ∧
    (∀ e, Command.parse call.command = .error e →
      e.errorClass = .grammar ∧ s.exec call = (.error e, s)) := by
  refine ⟨fun c hparse => ?_, fun e hparse => ⟨Command.errorClass_of_parse hparse, ?_⟩⟩
  · obtain ⟨d, htokenize, hid⟩ := tokenize_of_parse s hparse
    obtain ⟨hafter, herror⟩ := exec_of_tokenize s htokenize
    rw [← hid]
    cases hc : s.registry.find? d.connection with
    | none =>
      have h := refused_runCommand s d call.args hc
      rw [← hafter, ← herror] at h
      exact errorPolicy_of_refused hc h
    | some conn =>
      have hfailure : s.failure? call = s.courseFailure? conn (s.course d call.args) := by
        rw [failure?, htokenize]
        dsimp only
        rw [hc]
      have h := policed_runCommand s d call.args hc
      rw [← hafter, ← herror, ← hfailure] at h
      exact errorPolicy_of_policed hc h
  · rw [exec, tokenize, hparse]

end Courses

/-- A gateway that opens no link. -/
structure Unreachable where

instance : Gateway Unreachable Unit where
  connect g _ := (.error (.connection "refused"), g)
  quote _ value := Literal.quote value
  fetch g link _ _ := (.ok [], link, g)
  execute g link _ _ := (.ok 0, link, g)
  lastInsertId g link := (.ok 0, link, g)
  transact g link _ := (.ok (), link, g)

/-- A selection over a link that cannot be opened: the connection's handler hears of it, once. -/
theorem exec_errorPolicy_refused :
    let conn : Connection Unit :=
      { id := 1, config := { host := "h", database := "d", user := "u", password := "",
                             errorHandler := true } }
    let s : Session Unreachable Unit MemoryStore :=
      { gateway := ⟨⟩, registry := { connections := [conn] } }
    s.failure? { command := "users WHERE a = 1" } = some (.connection "refused") ∧
      Noted 1 s (s.exec { command := "users WHERE a = 1" }).2 "Connection error: refused" true := by
  intro conn s
  have hparse : Command.parse "users WHERE a = 1"
      = .ok { table := "users", clause := "WHERE a = 1" } := by cbv
  have hfailure : s.failure? { command := "users WHERE a = 1" } = some (.connection "refused") := by
    cbv
  exact ⟨hfailure,
    ((exec_errorPolicy s { command := "users WHERE a = 1" }).1 _ hparse).recorded conn _ rfl
      hfailure rfl⟩

end Session

end SqlShorthand
