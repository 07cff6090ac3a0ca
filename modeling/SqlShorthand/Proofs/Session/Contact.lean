import SqlShorthand.Proofs.Session.Isolation

/-!
# Proofs/Session/Contact — when a backend is asked

A session speaks to a backend in two ways: it tries to connect, and it makes a request through an
open link.  `contacts` tells of both without running anything: what a call asks for (`request?`),
whether it comes to that, and whether the link has to be opened first.

* `Contacted` — between two sessions, the backends saw these contacts: the trace grew by them, and
  the connections that they opened are open.  `contacted_throughLink` is the one place where a
  contact is made; everything around it adds none, so `contacted_exec` holds of every call.
* `exchange_contacts` — the contacts of a call have one of four forms: none, a request, an attempt
  to connect that fails, or one that succeeds and then a request.
-/

namespace SqlShorthand

/-! ## Contacts -/

/-- What a backend is asked for. -/
inductive Request where
  | statement (stmt : Statement)
  | lastInsertId
  | transaction (step : Transaction)
  deriving DecidableEq

/-- **The event of a request**: a statement is fetched exactly if its shape is rows, and else
executed. -/
def Request.event (id : ConnectionId) : Request → Event
  | .statement stmt =>
    if stmt.reading.shape stmt.sql = .rows then .fetch id stmt.sql stmt.params
    else .execute id stmt.sql stmt.params
  | .lastInsertId => .lastInsertId id
  | .transaction step => .transaction id step

/-- The request that a course makes. -/
def Course.request? {γ β σ : Type} : Course γ β σ → Option Request
  | .settled _ _ => none
  | .run sql params reading _ _ _ => some (.statement { sql, params, reading })
  | .runUnlogged stmt => some (.statement stmt)
  | .insertId => some .lastInsertId
  | .transact step => some (.transaction step)

/-- A contact with a backend. -/
inductive Contact where
  /-- An attempt to connect, and whether it opened a link. -/
  | connect (id : ConnectionId) (host database : String) (ok : Bool)
  | asked (id : ConnectionId) (request : Request)
  deriving DecidableEq

/-- The contact as the trace tells of it. -/
def Contact.event : Contact → Event
  | .connect id host database _ => .connect id host database
  | .asked id request => request.event id

/-- Whether the contact opens a connection. -/
def Contact.opens (id : ConnectionId) : Contact → Bool
  | .connect id' _ _ ok => ok && id' == id
  | .asked _ _ => false

/-- Whether a connection was opened. -/
def opened (id : ConnectionId) (history : List Contact) : Bool := history.any (·.opens id)

/-- Whether the event reached a backend. -/
def Event.isBackend : Event → Bool
  | .logLine _ _ | .errorNotice _ _ => false
  | _ => true

@[simp] theorem Contact.isBackend_event (contact : Contact) : contact.event.isBackend = true := by
  cases contact with
  | connect => rfl
  | asked id request =>
    cases request with
    | statement stmt =>
      rw [event, Request.event]
      split <;> rfl
    | lastInsertId | transaction => rfl

@[simp] theorem filter_isBackend_lineEvents {β : Type} (c : Connection β) (line : String) :
    (c.lineEvents line).filter Event.isBackend = [] := by
  rw [Connection.lineEvents]
  split <;> rfl

@[simp] theorem opened_nil (id : ConnectionId) : opened id [] = false := rfl

theorem opened_append (id : ConnectionId) (history history' : List Contact) :
    opened id (history ++ history') = (opened id history || opened id history') :=
  List.any_append

/-! ## Connections that are open -/

/-- Whether a connection is registered and open. -/
def Registry.isConnected {β : Type} (r : Registry β) (id : ConnectionId) : Bool :=
  (r.find? id).any Connection.isConnected

/-- A change that leaves links alone opens and closes none. -/
theorem Registry.isConnected_modify {β : Type} (r : Registry β) (id id' : ConnectionId)
    {f : Connection β → Connection β} (hid : ∀ c, (f c).id = c.id)
    (hlink : ∀ c, (f c).link = c.link) :
    (r.modify id f).isConnected id' = r.isConnected id' := by
  have hconnected : ∀ c, (f c).isConnected = c.isConnected := fun c =>
    congrArg Option.isSome (hlink c)
  rw [isConnected, find?_modify r id id' hid, isConnected]
  cases r.find? id' with
  | none => rfl
  | some c =>
    change (if c.id == id then f c else c).isConnected = c.isConnected
    split
    · exact hconnected c
    · rfl

/-- A link that is set is open. -/
theorem Registry.isConnected_modify_link {β : Type} {r : Registry β} {id : ConnectionId}
    {c : Connection β} (hc : r.find? id = some c) (link : β) (id' : ConnectionId) :
    (r.modify id fun c => { c with link := some link }).isConnected id'
      = (r.isConnected id' || id == id') := by
  have hid : ∀ d : Connection β, { d with link := some link }.id = d.id := fun _ => rfl
  rw [isConnected]
  by_cases h : id' = id
  · subst h
    rw [find?_modify_self r hid, hc, beq_self_eq_true, Bool.or_true]
    rfl
  · rw [find?_modify_of_ne r hid h, beq_eq_false_iff_ne.mpr (Ne.symm h), Bool.or_false, isConnected]

namespace Session

variable {γ β σ : Type} {id : ConnectionId} {s t u : Session γ β σ} {c : Connection β}
  {seen seen' : List Contact}

/-! ## What the backends saw -/

/-- Whether a connection is registered and open. -/
def isConnected (s : Session γ β σ) (id : ConnectionId) : Bool := s.registry.isConnected id

theorem isConnected_of_find? (hc : s.registry.find? id = some c) :
    s.isConnected id = c.isConnected := by
  rw [isConnected, Registry.isConnected, hc, Option.any_some]

/-- The events that reached a backend. -/
def backendEvents (s : Session γ β σ) : List Event := s.trace.filter Event.isBackend

/-- **What the backends saw between two sessions**: the trace grew by these contacts, and the
connections that they opened are open. -/
structure Contacted (s t : Session γ β σ) (seen : List Contact) : Prop where
  trace : t.backendEvents = s.backendEvents ++ seen.map Contact.event
  connected : ∀ id, t.isConnected id = (s.isConnected id || opened id seen)

theorem Contacted.trans (h : Contacted s t seen) (h' : Contacted t u seen') :
    Contacted s u (seen ++ seen') := by
  refine ⟨?_, fun id => ?_⟩
  · rw [h'.trace, h.trace, List.append_assoc, List.map_append]
  · rw [h'.connected, h.connected, opened_append, Bool.or_assoc]

/-- Handlers may be called and connections may change; where no link does, no backend was asked. -/
theorem contacted_nil {events : List Event} (htrace : t.trace = s.trace ++ events)
    (hevents : events.filter Event.isBackend = [])
    (hlinks : ∀ id, t.isConnected id = s.isConnected id) : Contacted s t [] := by
  refine ⟨?_, fun id => ?_⟩
  · rw [backendEvents, htrace, List.filter_append, hevents]
    rfl
  · rw [hlinks, opened_nil, Bool.or_false]

/-- Where the trace and the links stay, no backend was asked. -/
theorem contacted_of_eq (htrace : t.trace = s.trace)
    (hlinks : ∀ id, t.isConnected id = s.isConnected id) : Contacted s t [] :=
  contacted_nil (htrace.trans (List.append_nil _).symm) rfl hlinks

theorem Contacted.refl (s : Session γ β σ) : Contacted s s [] := contacted_of_eq rfl fun _ => rfl

/-- A contact that the trace tells of, with the links that it leaves. -/
theorem contacted_contact (gateway : γ) {registry : Registry β} (contact : Contact)
    (hlinks : ∀ id, registry.isConnected id = (s.registry.isConnected id || contact.opens id)) :
    Contacted s { s with gateway, registry, trace := s.trace ++ [contact.event] } [contact] := by
  refine ⟨?_, fun id => (hlinks id).trans ?_⟩
  · simp [backendEvents, List.filter_append]
  · rw [opened, List.any_cons, List.any_nil, Bool.or_false, isConnected]

theorem contacted_withCache (s : Session γ β σ) (cache : Option (Cache σ)) :
    Contacted s { s with cache } [] := contacted_of_eq rfl fun _ => rfl

theorem contacted_pushLog (s : Session γ β σ) (id : ConnectionId) (line : String) :
    Contacted s (s.pushLog id line) [] := by
  rw [pushLog]
  split
  · exact contacted_nil rfl (filter_isBackend_lineEvents _ line) fun id' =>
      Registry.isConnected_modify s.registry id id' (fun c => c.pushLog_id line)
        fun c => c.pushLog_link line
  · exact .refl s

theorem contacted_logged (s : Session γ β σ) (id : ConnectionId) (sql : String)
    (params : Params) : Contacted s (s.logged id sql params) [] := by
  have hquery := contacted_pushLog s id (queryLine sql)
  rw [logged]
  split
  · exact hquery
  · exact hquery.trans (contacted_pushLog _ id _)

theorem contacted_noteError (s : Session γ β σ) (c : Connection β) (message : String)
    (notify : Bool) : Contacted s (s.noteError c message notify) [] := by
  refine contacted_nil (List.append_assoc ..) ?_ fun id' =>
    Registry.isConnected_modify s.registry c.id id' (fun d => recordError_id d message)
      fun d => d.pushLog_link _
  rw [List.filter_append, filter_isBackend_lineEvents]
  split <;> rfl

/-- Noting a failure asks no backend. -/
theorem Contacted.surface {α : Type} {r : Except Error α} (h : Contacted s t seen) :
    Contacted s (surface id (r, t)).2 seen := by
  obtain e | a := r
  · simp only [Session.surface]
    split
    · exact h
    · split
      · exact h
      · rename_i d _
        have hnoted := h.trans (contacted_noteError t d e.message
          (d.config.surfaceErrors && d.config.errorHandler))
        rw [List.append_nil] at hnoted
        split <;> exact hnoted
  · exact h

theorem contacted_setLogging (s : Session γ β σ) (id : ConnectionId) (on : Bool) :
    Contacted s (s.setLogging id on) [] :=
  contacted_of_eq rfl fun id' =>
    Registry.isConnected_modify s.registry id id' (fun _ => rfl) fun _ => rfl

/-- What a command settles by itself asks no backend. -/
theorem contacted_settles {command : Command} {r : Except Error Output}
    (h : Settles s command r t) : Contacted s t [] := by
  cases h with
  | refused | unknown | told => exact .refl s
  | keys o keys =>
    exact contacted_of_eq rfl fun id' =>
      Registry.isConnected_modify s.registry _ id' (fun _ => rfl) fun _ => rfl
  | expiry | paging => exact contacted_of_eq rfl fun _ => rfl

/-! ## The contacts of a call -/

section Calls

variable [Gateway γ β]

/-- **The contacts of a request**: a link that is not open is opened first, and the request is made
only if it opens. -/
def linkContacts (g : γ) (c : Connection β) (request : Request) : List Contact :=
  match c.link with
  | some _ => [.asked c.id request]
  | none =>
    match (Gateway.connect g c.config).1 with
    | .ok _ => [.connect c.id c.config.host c.config.database true, .asked c.id request]
    | .error _ => [.connect c.id c.config.host c.config.database false]

omit [Gateway γ β] in
/-- The backend is asked through a link that is open, and the link that remains is kept. -/
theorem contacted_asked (hopen : s.isConnected id = true) (request : Request) (gateway : γ)
    (link : β) :
    Contacted s
      { s with
        gateway
        registry := s.registry.modify id fun c => { c with link := some link }
        trace := s.trace ++ [request.event id] } [.asked id request] := by
  obtain ⟨c, hc⟩ : ∃ c, s.registry.find? id = some c := by
    cases hc : s.registry.find? id with
    | some c => exact ⟨c, rfl⟩
    | none =>
      rw [isConnected, Registry.isConnected, hc] at hopen
      cases hopen
  refine contacted_contact gateway (.asked id request) fun id' => ?_
  rw [Registry.isConnected_modify_link hc]
  by_cases h : id = id'
  · rw [← h, show s.registry.isConnected id = true from hopen]
    rfl
  · rw [beq_eq_false_iff_ne.mpr h]
    rfl

/-- **The one place where contacts are made.** -/
theorem contacted_throughLink {α : Type} (hc : s.registry.find? id = some c) (request : Request)
    (op : γ → β → Except Error α × β × γ) :
    Contacted s (s.throughLink id (request.event id) op).2 (linkContacts s.gateway c request) := by
  obtain rfl := Registry.id_of_find? hc
  rw [throughLink, hc]
  simp only [openLink, linkContacts]
  cases hlink : c.link with
  | some link =>
    refine contacted_asked ?_ request _ _
    rw [isConnected_of_find? hc, Connection.isConnected, hlink, Option.isSome_some]
  | none =>
    obtain ⟨e | link, gateway⟩ := Gateway.connect s.gateway c.config
    · exact contacted_contact gateway (.connect c.id c.config.host c.config.database false)
        fun id' => (Bool.or_false _).symm
    · have hopened := contacted_contact (s := s) gateway
        (.connect c.id c.config.host c.config.database true)
        fun id' => Registry.isConnected_modify_link hc link id'
      refine hopened.trans (contacted_asked ?_ request _ _)
      rw [hopened.connected, opened, List.any_cons]
      simp [Contact.opens]

theorem linkContacts_pushLog (g : γ) (c : Connection β) (line : String) (request : Request) :
    linkContacts g (c.pushLog line) request = linkContacts g c request := by
  simp only [linkContacts, Connection.pushLog_link, Connection.pushLog_config,
    Connection.pushLog_id]

variable [Store σ]

/-- The contacts of a statement: none if its values are refused, or if it asks the cache and that is
missing or has an answer. -/
def statementContacts (g : γ) (cache : Option (Cache σ)) (c : Connection β) (stmt : Statement)
    (useCache : Bool) : List Contact :=
  match stmt.params.ensureBindable with
  | .error _ => []
  | .ok () =>
    if useCache then
      match cache with
      | none => []
      | some cache =>
        match (cachedRows? cache (cache.keyFor c.id stmt.sql stmt.params)).1 with
        | some _ => []
        | none => linkContacts g c (.statement stmt)
    else linkContacts g c (.statement stmt)

theorem statementContacts_pushLog (g : γ) (cache : Option (Cache σ)) (c : Connection β)
    (line : String) (stmt : Statement) (useCache : Bool) :
    statementContacts g cache (c.pushLog line) stmt useCache
      = statementContacts g cache c stmt useCache := by
  simp only [statementContacts, linkContacts_pushLog, Connection.pushLog_id]

/-- The contacts of a course on a connection. -/
def courseContacts (s : Session γ β σ) (c : Connection β) : Course γ β σ → List Contact
  | .settled _ _ => []
  | .run sql params reading useCache _ _ =>
    statementContacts s.gateway s.cache c { sql, params, reading } useCache
  | .runUnlogged stmt =>
    statementContacts s.gateway s.cache { c with config := { c.config with logging := false } }
      stmt false
  | .insertId => linkContacts s.gateway c .lastInsertId
  | .transact step => linkContacts s.gateway c (.transaction step)

/-- **The contacts of a call** with the backend of its connection. -/
def contacts (s : Session γ β σ) (call : Call) : List Contact :=
  match s.tokenize call.command with
  | .error _ => []
  | .ok c =>
    match s.registry.find? c.connection with
    | none => []
    | some conn => s.courseContacts conn (s.course c call.args)

/-! ## A call makes its contacts -/

omit [Gateway γ β] in
theorem contacted_keep (s : Session γ β σ) (key : String) (rows : List Json) :
    Contacted s (s.keep key rows).2 [] := by
  rw [keep]
  split
  · exact .refl s
  · exact contacted_withCache s _

theorem contacted_send (hc : s.registry.find? id = some c) (sql : String) (params : Params)
    (reading : Reading) (key : Option String) :
    Contacted s (s.send id sql params reading key).2
      (linkContacts s.gateway c (.statement { sql, params, reading })) := by
  rw [send]
  cases hshape : reading.shape sql with
  | rows =>
    have hfetch := contacted_throughLink hc (.statement { sql, params, reading })
      fun g link => Gateway.fetch g link sql params
    rw [Request.event, if_pos hshape] at hfetch
    dsimp only
    split
    · rename_i h
      rwa [h] at hfetch
    · rename_i rows t h
      rw [h] at hfetch
      cases key with
      | none => exact hfetch
      | some key =>
        have hkept := (hfetch.trans (contacted_pushLog t id (cacheWriteLine key))).trans
          (contacted_keep _ key (rows.map Json.obj))
        rw [List.append_nil, List.append_nil] at hkept
        dsimp only
        split <;> rename_i h <;> rwa [h] at hkept
  | affected | done =>
    have hexecute := contacted_throughLink hc (.statement { sql, params, reading })
      fun g link => Gateway.execute g link sql params
    rw [Request.event, if_neg (by simp [hshape])] at hexecute
    dsimp only
    split <;> rename_i h <;> rwa [h] at hexecute

theorem contacted_answer (hc : s.registry.find? id = some c) (sql : String) {params : Params}
    (hparams : params.ensureBindable = .ok ()) (reading : Reading) (useCache : Bool) :
    Contacted s (s.answer id sql params reading useCache).2
      (statementContacts s.gateway s.cache c { sql, params, reading } useCache) := by
  simp only [answer, statementContacts, hparams]
  split
  · cases hcache : s.cache with
    | none =>
      rw [lookUp, hcache]
      exact .refl s
    | some cache =>
      rw [lookUp_eq s id sql params hcache, Registry.id_of_find? hc]
      dsimp only
      obtain ⟨_ | rows, after⟩ := cachedRows? cache (cache.keyFor id sql params)
      · exact (contacted_withCache s _).trans
          (contacted_send (s := { s with cache := some after }) hc sql params reading _)
      · exact (contacted_withCache s _).trans (contacted_pushLog _ id _)
  · exact contacted_send hc sql params reading none

theorem contacted_dispatch (hc : s.registry.find? id = some c) (sql : String) (params : Params)
    (reading : Reading) (useCache : Bool) :
    Contacted s (s.dispatch id sql params reading useCache).2
      (statementContacts s.gateway s.cache c { sql, params, reading } useCache) := by
  have hquery := find?_pushLog hc (queryLine sql)
  cases hparams : params.ensureBindable with
  | ok =>
    rw [dispatch_eq_answer hc sql hparams]
    refine (contacted_logged s id sql params).trans ?_
    rw [logged]
    split
    · have h := contacted_answer hquery sql hparams reading useCache
      rwa [pushLog_gateway, pushLog_cache, statementContacts_pushLog] at h
    · have h := contacted_answer (find?_pushLog hquery (paramsLine params)) sql hparams reading
        useCache
      rwa [pushLog_gateway, pushLog_gateway, pushLog_cache, pushLog_cache,
        statementContacts_pushLog, statementContacts_pushLog] at h
  | error e =>
    rw [dispatch, Registry.contains_eq_true hc]
    simp only [statementContacts, hparams, Bool.not_true, Bool.false_eq_true, if_false]
    split
    · rename_i hempty
      rw [ensureBindable_of_isEmpty hempty] at hparams
      cases hparams
    · exact contacted_pushLog s id _

theorem contacted_run (hc : s.registry.find? id = some c) (sql : String) (params : Params)
    (reading : Reading) (useCache : Bool) :
    Contacted s (s.run id sql params reading useCache).2
      (statementContacts s.gateway s.cache c { sql, params, reading } useCache) :=
  (contacted_dispatch hc sql params reading useCache).surface

theorem contacted_runUnlogged (hc : s.registry.find? id = some c) (stmt : Statement) :
    Contacted s (s.runUnlogged id stmt).2 (s.courseContacts c (.runUnlogged stmt)) := by
  have hoff : (s.setLogging id false).registry.find? id
      = some { c with config := { c.config with logging := false } } := by
    rw [find?_setLogging, hc]
    rfl
  have hrun := ((contacted_setLogging s id false).trans
    (contacted_run hoff stmt.sql stmt.params stmt.reading false)).trans
    (contacted_setLogging _ id c.config.logging)
  rw [List.append_nil] at hrun
  rw [runUnlogged, hc]
  dsimp only
  rw [orElse_snd]
  exact hrun

theorem contacted_runCommand (s : Session γ β σ) (command : Command) (args : List Params)
    (hc : s.registry.find? command.connection = some c) :
    Contacted s (s.runCommand command args).2 (s.courseContacts c (s.course command args)) := by
  rw [runCommand_eq_follow]
  cases hcourse : s.course command args with
  | settled r after => exact contacted_settles (settles_course hcourse)
  | run sql params reading useCache neutral finish =>
    rw [follow, orElse_snd]
    exact contacted_run hc sql params reading useCache
  | runUnlogged stmt => exact contacted_runUnlogged hc stmt
  | insertId =>
    rw [follow, insertId, orElse_snd]
    exact (contacted_throughLink hc .lastInsertId _).surface
  | transact step =>
    rw [follow, transaction, orElse_snd]
    exact (contacted_throughLink hc (.transaction step) fun g link =>
      Gateway.transact g link step).surface

/-- **A call makes its contacts, and no others.** -/
theorem contacted_exec (s : Session γ β σ) (call : Call) :
    Contacted s (s.exec call).2 (s.contacts call) := by
  rw [contacts]
  cases htokenize : s.tokenize call.command with
  | error e =>
    rw [exec, htokenize]
    exact .refl s
  | ok command =>
    rw [(exec_of_tokenize s htokenize).1]
    dsimp only
    cases hc : s.registry.find? command.connection with
    | some c => exact contacted_runCommand s command call.args hc
    | none =>
      have hrefused := refused_runCommand s command call.args hc
      refine contacted_of_eq hrefused.trace fun id => ?_
      rw [isConnected, hrefused.registry, isConnected]

/-! ## The form of the contacts -/

/-- The connection that a call names, if it is registered. -/
def named? (s : Session γ β σ) (call : Call) : Option (Connection β) :=
  match Command.parse call.command with
  | .error _ => none
  | .ok c => s.registry.find? c.connection

/-- The request that a call may make. -/
def request? (s : Session γ β σ) (call : Call) : Option Request :=
  match s.tokenize call.command with
  | .error _ => none
  | .ok c => (s.course c call.args).request?

/-- **One call and the backends**: nothing; or its request, if its connection is open; else one
attempt to connect, and its request only after that opened the link. -/
inductive Exchange (s : Session γ β σ) (call : Call) : List Contact → Prop where
  | quiet : Exchange s call []
  | asked (c : Connection β) (request : Request) (hc : s.named? call = some c)
      (hopen : c.isConnected = true) (hrequest : s.request? call = some request) :
      Exchange s call [.asked c.id request]
  | refused (c : Connection β) (logging : Bool) (e : Error) (hc : s.named? call = some c)
      (hclosed : c.isConnected = false)
      (hconnect : (Gateway.connect s.gateway { c.config with logging }).1 = .error e) :
      Exchange s call [.connect c.id c.config.host c.config.database false]
  | opened (c : Connection β) (logging : Bool) (link : β) (request : Request)
      (hc : s.named? call = some c) (hclosed : c.isConnected = false)
      (hconnect : (Gateway.connect s.gateway { c.config with logging }).1 = .ok link)
      (hrequest : s.request? call = some request) :
      Exchange s call
        [.connect c.id c.config.host c.config.database true, .asked c.id request]

variable {call : Call} {request : Request}

omit [Store σ] in
theorem exchange_linkContacts (hc : s.named? call = some c)
    (hrequest : s.request? call = some request) (logging : Bool) :
    Exchange s call
      (linkContacts s.gateway { c with config := { c.config with logging } } request) := by
  rw [linkContacts]
  dsimp only
  split
  · rename_i link hlink
    exact .asked c request hc (by rw [Connection.isConnected, hlink]; rfl) hrequest
  · rename_i hlink
    have hclosed : c.isConnected = false := by rw [Connection.isConnected, hlink]; rfl
    split
    · rename_i link hconnect
      exact .opened c logging link request hc hclosed hconnect hrequest
    · rename_i e hconnect
      exact .refused c logging e hc hclosed hconnect

theorem exchange_statementContacts {stmt : Statement} (hc : s.named? call = some c)
    (hrequest : s.request? call = some (.statement stmt)) (logging useCache : Bool) :
    Exchange s call (statementContacts s.gateway s.cache
      { c with config := { c.config with logging } } stmt useCache) := by
  have hlink := exchange_linkContacts hc hrequest logging
  simp only [statementContacts]
  split
  · exact .quiet
  · split
    · split
      · exact .quiet
      · split
        · exact .quiet
        · exact hlink
    · exact hlink

omit [Store σ] in
/-- A command keeps its connection while it is narrowed to its row. -/
theorem named?_of_tokenize {command : Command} (h : s.tokenize call.command = .ok command) :
    s.named? call = s.registry.find? command.connection := by
  rw [tokenize] at h
  split at h
  · rename_i parsed hparse
    obtain ⟨clause, hscope⟩ := scopeRow_eq parsed (s.keysOf parsed.connection)
      (Gateway.quote s.gateway)
    rw [hscope] at h
    cases h
    rw [named?, hparse]
  · cases h

/-- **The contacts of a call have one of the four forms.** -/
theorem exchange_contacts (s : Session γ β σ) (call : Call) :
    Exchange s call (s.contacts call) := by
  rw [contacts]
  split
  · exact .quiet
  · rename_i command htokenize
    split
    · exact .quiet
    · rename_i c hfind
      have hc := (named?_of_tokenize htokenize).trans hfind
      have hrequest : s.request? call = (s.course command call.args).request? := by
        rw [request?, htokenize]
      cases hcourse : s.course command call.args with
      | settled => exact .quiet
      | run sql params reading useCache neutral finish =>
        rw [hcourse] at hrequest
        exact exchange_statementContacts hc hrequest c.config.logging useCache
      | runUnlogged stmt =>
        rw [hcourse] at hrequest
        exact exchange_statementContacts hc hrequest false false
      | insertId | transact =>
        rw [hcourse] at hrequest
        exact exchange_linkContacts hc hrequest c.config.logging

end Calls

end Session

end SqlShorthand
