import SqlShorthand.Proofs.Session.Frame

/-!
# Proofs/Session/Isolation — a command sees its own connection only

Two sessions that agree on one connection, on paging and cache, and on what the gateway answers that
connection run a command of it alike: the same result, the same events, and they agree again
(`twins_runCommand`).  `debug`, which tells of every connection, is the one exception.

What it is to be answered alike is left open (`Likeness`): gateways may differ in all that the
connection's links do not show.  Equality is one likeness, and the coarsest use of it is two sessions
that share their gateway (`Agree.of_gateway_eq`).

Together with the frame of a command — what it leaves alone — this isolates a connection from the
others in both directions (`exec_isolated`).
-/

namespace SqlShorthand

/-! ## Gateways that answer alike -/

/-- A way to compare gateways: which two are alike, and whose links they are compared on. -/
structure Likeness (γ β : Type) where
  alike : γ → γ → Prop
  mine : β → Prop

namespace Likeness

variable {γ β : Type}

/-- An operation through a link is answered alike: the same result and the same link, by gateways
that stay alike. -/
def Answers {α : Type} (L : Likeness γ β) (op : γ → β → Except Error α × β × γ) : Prop :=
  ∀ g g' link, L.alike g g' → L.mine link →
    (op g' link).1 = (op g link).1 ∧ (op g' link).2.1 = (op g link).2.1 ∧
      L.mine (op g link).2.1 ∧ L.alike (op g link).2.2 (op g' link).2.2

variable [Gateway γ β]

/-- A link is opened alike: the same link or the same error, by gateways that stay alike. -/
def Opens (L : Likeness γ β) (config : ConnectionConfig) : Prop :=
  ∀ g g' : γ, L.alike g g' →
    (Gateway.connect g' config).1 = (Gateway.connect g config).1 ∧
      (∀ link, (Gateway.connect g config).1 = .ok link → L.mine link) ∧
      L.alike (Gateway.connect g config).2 (Gateway.connect g' config).2

/-- **A connection is served alike**: its links are opened alike, whether it logs or not, and every
operation through them is answered alike. -/
structure Serves (L : Likeness γ β) (c : Connection β) : Prop where
  link : ∀ link, c.link = some link → L.mine link
  connect : ∀ logging, L.Opens { c.config with logging }
  fetch : ∀ sql params, L.Answers fun g link => Gateway.fetch g link sql params
  execute : ∀ sql params, L.Answers fun g link => Gateway.execute g link sql params
  lastInsertId : L.Answers fun g link => Gateway.lastInsertId g link
  transact : ∀ step, L.Answers fun g link => Gateway.transact g link step

/-- Only the link and the configuration count, and of the latter not the log. -/
theorem Serves.congr {L : Likeness γ β} {c d : Connection β} (h : L.Serves c)
    (hconfig : ∃ logging, d.config = { c.config with logging })
    (hlink : ∀ link, d.link = some link → L.mine link) : L.Serves d := by
  obtain ⟨on, hconfig⟩ := hconfig
  refine ⟨hlink, fun logging => ?_, h.fetch, h.execute, h.lastInsertId, h.transact⟩
  rw [hconfig]
  exact h.connect logging

theorem Serves.opens {L : Likeness γ β} {c : Connection β} (h : L.Serves c) : L.Opens c.config :=
  h.connect c.config.logging

end Likeness

/-- Gateways are alike if they are equal. -/
def Likeness.equality (γ β : Type) : Likeness γ β := ⟨Eq, fun _ => True⟩

theorem Likeness.serves_equality {γ β : Type} [Gateway γ β] (c : Connection β) :
    (Likeness.equality γ β).Serves c where
  link _ _ := trivial
  connect _ g g' h := by cases h; exact ⟨rfl, fun _ _ => trivial, rfl⟩
  fetch _ _ g g' _ h _ := by cases h; exact ⟨rfl, rfl, trivial, rfl⟩
  execute _ _ g g' _ h _ := by cases h; exact ⟨rfl, rfl, trivial, rfl⟩
  lastInsertId g g' _ h _ := by cases h; exact ⟨rfl, rfl, trivial, rfl⟩
  transact _ g g' _ h _ := by cases h; exact ⟨rfl, rfl, trivial, rfl⟩

namespace Session

variable {γ β σ : Type} [Gateway γ β] {L : Likeness γ β} {id : ConnectionId} {a b : List Event}
  {s t : Session γ β σ}

/-! ## Sessions that agree -/

/-- **Two sessions agree on a connection**, on paging and cache, and on what the connection is
answered.  They may differ in every other connection. -/
structure Agree (L : Likeness γ β) (id : ConnectionId) (s t : Session γ β σ) : Prop where
  connection : t.registry.find? id = s.registry.find? id
  paging : t.paging = s.paging
  cache : t.cache = s.cache
  gateway : L.alike s.gateway t.gateway
  quote : ∀ g g' : γ, L.alike g g' → Gateway.quote g' = Gateway.quote g
  served : ∀ c, s.registry.find? id = some c → L.Serves c

/-- Sessions with one gateway are answered alike. -/
theorem Agree.of_gateway_eq (hconnection : t.registry.find? id = s.registry.find? id)
    (hpaging : t.paging = s.paging) (hcache : t.cache = s.cache) (hgateway : s.gateway = t.gateway) :
    Agree (Likeness.equality γ β) id s t :=
  ⟨hconnection, hpaging, hcache, hgateway, fun _ _ h => congrArg _ h.symm,
    fun c _ => Likeness.serves_equality c⟩

/-- Sessions that agree and have told the same since their traces were `a` and `b`. -/
structure Twins (L : Likeness γ β) (id : ConnectionId) (a b : List Event) (s t : Session γ β σ) :
    Prop extends Agree L id s t where
  trace : ∃ events, s.trace = a ++ events ∧ t.trace = b ++ events

/-- **Two runs that came out alike**: one result, and sessions that still are twins. -/
inductive SameRun (L : Likeness γ β) (id : ConnectionId) (a b : List Event) {α : Type} :
    α × Session γ β σ → α × Session γ β σ → Prop where
  | mk (r : α) {s t : Session γ β σ} (h : Twins L id a b s t) : SameRun L id a b (r, s) (r, t)

/-! ## Twins stay twins

One lemma for each part of a session that a command touches. -/

theorem Twins.emit (h : Twins L id a b s t) (events : List Event) :
    Twins L id a b { s with trace := s.trace ++ events } { t with trace := t.trace ++ events } := by
  obtain ⟨before, hs, ht⟩ := h.trace
  refine ⟨⟨h.connection, h.paging, h.cache, h.gateway, h.quote, h.served⟩, before ++ events, ?_, ?_⟩
  · rw [hs, List.append_assoc]
  · rw [ht, List.append_assoc]

theorem Twins.withGateway (h : Twins L id a b s t) {g g' : γ} (halike : L.alike g g') :
    Twins L id a b { s with gateway := g } { t with gateway := g' } :=
  ⟨⟨h.connection, h.paging, h.cache, halike, h.quote, h.served⟩, h.trace⟩

theorem Twins.withCache (h : Twins L id a b s t) (cache : Option (Cache σ)) :
    Twins L id a b { s with cache } { t with cache } :=
  ⟨⟨h.connection, h.paging, rfl, h.gateway, h.quote, h.served⟩, h.trace⟩

theorem Twins.withPaging (h : Twins L id a b s t) (paging : Paging) :
    Twins L id a b { s with paging } { t with paging } :=
  ⟨⟨h.connection, rfl, h.cache, h.gateway, h.quote, h.served⟩, h.trace⟩

/-- Twins stay twins if their connection changes alike and is still served. -/
theorem Twins.modify (h : Twins L id a b s t) (f : Connection β → Connection β)
    (hid : ∀ c, (f c).id = c.id) (hf : ∀ c, s.registry.find? id = some c → L.Serves (f c)) :
    Twins L id a b { s with registry := s.registry.modify id f }
      { t with registry := t.registry.modify id f } := by
  refine ⟨⟨?_, h.paging, h.cache, h.gateway, h.quote, fun c hc => ?_⟩, h.trace⟩
  · rw [Registry.find?_modify_self _ hid, Registry.find?_modify_self _ hid, h.connection]
  · rw [Registry.find?_modify_self _ hid] at hc
    obtain ⟨d, hd, rfl⟩ := Option.map_eq_some_iff.mp hc
    exact hf d hd

theorem Twins.pushLog (h : Twins L id a b s t) (line : String) :
    Twins L id a b (s.pushLog id line) (t.pushLog id line) := by
  rw [Session.pushLog, Session.pushLog, h.connection]
  cases hc : s.registry.find? id with
  | none => exact h
  | some c =>
    refine (h.modify (fun c => c.pushLog line) (fun c => c.pushLog_id line) fun d hd => ?_).emit _
    have hserved := h.served d hd
    exact hserved.congr ⟨d.config.logging, d.pushLog_config line⟩
      (by rw [Connection.pushLog_link]; exact hserved.link)

theorem Twins.setLogging (h : Twins L id a b s t) (on : Bool) :
    Twins L id a b (s.setLogging id on) (t.setLogging id on) :=
  h.modify _ (fun _ => rfl) fun d hd =>
    (h.served d hd).congr ⟨on, rfl⟩ (h.served d hd).link

theorem Twins.withLink (h : Twins L id a b s t) {link : β} (hlink : L.mine link) :
    Twins L id a b
      { s with registry := s.registry.modify id fun c => { c with link := some link } }
      { t with registry := t.registry.modify id fun c => { c with link := some link } } :=
  h.modify _ (fun _ => rfl) fun d hd =>
    (h.served d hd).congr ⟨d.config.logging, rfl⟩ fun _ hsome => Option.some.inj hsome ▸ hlink

theorem Twins.noteError (h : Twins L id a b s t) {c : Connection β}
    (hc : s.registry.find? id = some c) (message : String) (notify : Bool) :
    Twins L id a b (s.noteError c message notify) (t.noteError c message notify) := by
  rw [Session.noteError, Session.noteError, Registry.id_of_find? hc]
  simp only [List.append_assoc]
  refine (h.modify (fun c => c.recordError message) (fun c => recordError_id c message)
    fun d hd => ?_).emit _
  have hserved := h.served d hd
  refine hserved.congr ⟨d.config.logging, d.pushLog_config _⟩ ?_
  change ∀ link, (d.pushLog _).link = some link → L.mine link
  rw [Connection.pushLog_link]
  exact hserved.link

/-! ## A statement runs alike -/

theorem Twins.surface {α : Type} (h : Twins L id a b s t) (r : Except Error α) :
    SameRun L id a b (surface id (r, s)) (surface id (r, t)) := by
  obtain e | x := r
  · simp only [Session.surface, h.connection]
    split
    · exact .mk _ h
    · split
      · exact .mk _ h
      · rename_i c hc
        split <;> exact .mk _ (h.noteError hc _ _)
  · exact .mk _ h

theorem SameRun.surface {α : Type} {p q : Except Error α × Session γ β σ}
    (h : SameRun L id a b p q) : SameRun L id a b (Session.surface id p) (Session.surface id q) := by
  obtain ⟨r, h⟩ := h
  exact h.surface r

theorem SameRun.orElse {α : Type} {p q : Except Error (Option α) × Session γ β σ}
    (h : SameRun L id a b p q) (neutral : Output) (f : α → Output) :
    SameRun L id a b (Session.orElse neutral f p) (Session.orElse neutral f q) := by
  obtain ⟨e | _ | x, h⟩ := h <;> exact .mk _ h

/-- A link is opened alike, and it is one that gateways are compared on. -/
theorem Twins.openLink (h : Twins L id a b s t) {c : Connection β}
    (hc : s.registry.find? id = some c) :
    SameRun L id a b (s.openLink c) (t.openLink c) ∧
      ∀ link, (s.openLink c).1 = .ok link → L.mine link := by
  have hserved := h.served c hc
  rw [Session.openLink, Session.openLink]
  cases hlink : c.link with
  | some link => exact ⟨.mk _ h, fun _ hok => Except.ok.inj hok ▸ hserved.link link hlink⟩
  | none =>
    obtain ⟨hsame, hmine, halike⟩ := hserved.opens s.gateway t.gateway h.gateway
    have hasked := (h.withGateway halike).emit [.connect c.id c.config.host c.config.database]
    dsimp only
    rw [hsame, Registry.id_of_find? hc]
    rw [Registry.id_of_find? hc] at hasked
    cases hok : (Gateway.connect s.gateway c.config).1 with
    | error e => exact ⟨.mk _ hasked, fun link hlink => by cases hlink⟩
    | ok link =>
      exact ⟨.mk _ (hasked.withLink (hmine link hok)),
        fun _ hok' => Except.ok.inj hok' ▸ hmine link hok⟩

/-- **Speaking through a link goes alike.** -/
theorem Twins.throughLink {α : Type} (h : Twins L id a b s t) (event : Event)
    (op : γ → β → Except Error α × β × γ)
    (hop : ∀ c, s.registry.find? id = some c → L.Answers op) :
    SameRun L id a b (s.throughLink id event op) (t.throughLink id event op) := by
  rw [Session.throughLink, Session.throughLink, h.connection]
  cases hc : s.registry.find? id with
  | none => exact .mk _ h
  | some c =>
    obtain ⟨hrun, hmine⟩ := h.openLink hc
    dsimp only
    generalize s.openLink c = p, t.openLink c = q at hrun hmine
    obtain ⟨e | link, h⟩ := hrun
    · exact .mk _ h
    · rename_i s t
      obtain ⟨hresult, hlink, hmine', halike⟩ :=
        hop c hc s.gateway t.gateway link h.gateway (hmine link rfl)
      dsimp only
      rw [hresult, hlink]
      exact .mk _ (((h.withGateway halike).withLink hmine').emit [event])

section Statements

variable [Store σ]

theorem Twins.lookUp (h : Twins L id a b s t) (sql : String) (params : Params) :
    SameRun L id a b (s.lookUp id sql params) (t.lookUp id sql params) := by
  cases hcache : s.cache with
  | none =>
    rw [Session.lookUp, Session.lookUp, h.cache, hcache]
    exact .mk _ h
  | some cache =>
    rw [lookUp_eq s id sql params hcache, lookUp_eq t id sql params (h.cache.trans hcache)]
    exact .mk _ (h.withCache _)

theorem Twins.keep (h : Twins L id a b s t) (key : String) (rows : List Json) :
    SameRun L id a b (s.keep key rows) (t.keep key rows) := by
  rw [Session.keep, Session.keep, h.cache]
  cases s.cache with
  | none => exact .mk _ h
  | some cache => exact .mk _ (h.withCache _)

theorem Twins.send (h : Twins L id a b s t) (sql : String) (params : Params) (reading : Reading)
    (key : Option String) :
    SameRun L id a b (s.send id sql params reading key) (t.send id sql params reading key) := by
  have hfetch := h.throughLink (.fetch id sql params) (fun g link => Gateway.fetch g link sql params)
    fun c hc => (h.served c hc).fetch sql params
  have hexecute := h.throughLink (.execute id sql params)
    (fun g link => Gateway.execute g link sql params) fun c hc => (h.served c hc).execute sql params
  rw [Session.send, Session.send]
  generalize s.throughLink id (.fetch id sql params) _ = p,
    t.throughLink id (.fetch id sql params) _ = q at hfetch
  generalize s.throughLink id (.execute id sql params) _ = p',
    t.throughLink id (.execute id sql params) _ = q' at hexecute
  cases reading.shape sql with
  | rows =>
    obtain ⟨e | rows, h⟩ := hfetch
    · exact .mk _ h
    · rename_i s t
      cases key with
      | none => exact .mk _ h
      | some key =>
        have hkeep := (h.pushLog (cacheWriteLine key)).keep key (rows.map Json.obj)
        dsimp only
        generalize (s.pushLog id (cacheWriteLine key)).keep key _ = p,
          (t.pushLog id (cacheWriteLine key)).keep key _ = q at hkeep
        obtain ⟨e | _, h⟩ := hkeep <;> exact .mk _ h
  | affected | done => obtain ⟨e | n, h⟩ := hexecute <;> exact .mk _ h

theorem Twins.answer (h : Twins L id a b s t) (sql : String) (params : Params) (reading : Reading)
    (useCache : Bool) :
    SameRun L id a b (s.answer id sql params reading useCache)
      (t.answer id sql params reading useCache) := by
  have hlook := h.lookUp sql params
  rw [Session.answer, Session.answer]
  generalize s.lookUp id sql params = p, t.lookUp id sql params = q at hlook
  split
  · obtain ⟨e | ⟨key, _ | rows⟩, h⟩ := hlook
    · exact .mk _ h
    · exact h.send sql params reading (some key)
    · exact .mk _ (h.pushLog _)
  · exact h.send sql params reading none

/-- **A statement runs alike.** -/
theorem Twins.dispatch (h : Twins L id a b s t) (sql : String) (params : Params)
    (reading : Reading) (useCache : Bool) :
    SameRun L id a b (s.dispatch id sql params reading useCache)
      (t.dispatch id sql params reading useCache) := by
  have hquery := h.pushLog (queryLine sql)
  rw [Session.dispatch, Session.dispatch, Registry.contains, Registry.contains, h.connection]
  split
  · exact .mk _ h
  · dsimp only
    split
    · exact hquery.answer sql params reading useCache
    · split
      · exact .mk _ hquery
      · exact (hquery.pushLog _).answer sql params reading useCache

theorem Twins.run (h : Twins L id a b s t) (sql : String) (params : Params) (reading : Reading)
    (useCache : Bool) :
    SameRun L id a b (s.run id sql params reading useCache)
      (t.run id sql params reading useCache) :=
  (h.dispatch sql params reading useCache).surface

theorem Twins.runUnlogged (h : Twins L id a b s t) (stmt : Statement) :
    SameRun L id a b (s.runUnlogged id stmt) (t.runUnlogged id stmt) := by
  rw [Session.runUnlogged, Session.runUnlogged, h.connection]
  cases s.registry.find? id with
  | none => exact .mk _ h
  | some c =>
    have hrun := ((h.setLogging false).run stmt.sql stmt.params stmt.reading false).orElse .done
      fun _ => .done
    dsimp only
    generalize hp : Session.orElse .done _ ((s.setLogging id false).runUncached id stmt) = p
    generalize hq : Session.orElse .done _ ((t.setLogging id false).runUncached id stmt) = q
    rw [← runUncached, ← runUncached, hp, hq] at hrun
    obtain ⟨r, h⟩ := hrun
    exact .mk r (h.setLogging _)

/-! ## A command runs alike -/

variable {c : Command}

omit [Store σ] in
theorem Twins.selectModel (h : Twins L c.connection a b s t) (stmt : Statement) :
    SameRun L c.connection a b (s.selectModel c stmt) (t.selectModel c stmt) := by
  rw [Session.selectModel, Session.selectModel, Registry.get, Registry.get, h.connection]
  split
  · exact .mk _ h
  · cases s.registry.find? c.connection <;> exact .mk _ h

theorem Twins.execute (h : Twins L id a b s t) (stmt : Statement) (useCache : Bool) :
    SameRun L id a b (s.execute id stmt useCache) (t.execute id stmt useCache) :=
  (h.run stmt.sql stmt.params stmt.reading useCache).orElse _ _

theorem Twins.firstRow (h : Twins L id a b s t) (stmt : Statement) (reading : Reading)
    (useCache : Bool) :
    SameRun L id a b (s.firstRow id stmt reading useCache) (t.firstRow id stmt reading useCache) :=
  (h.run (firstRowSql stmt.sql) stmt.params reading useCache).orElse _ _

theorem Twins.page (h : Twins L id a b s t) (sql : String) (window : Paging.Window)
    (params : Params) (useCache : Bool) :
    SameRun L id a b (s.page id sql window params useCache) (t.page id sql window params useCache) :=
  (h.run sql params .rows useCache).orElse _ _

theorem Twins.select (h : Twins L c.connection a b s t) (options : Options) (args : List Params) :
    SameRun L c.connection a b (s.select c options args) (t.select c options args) := by
  rw [Session.select, Session.select, h.paging]
  cases c.compile options args with
  | error e => exact .mk _ h
  | ok stmt =>
    dsimp only
    split
    · cases s.paging.prepare stmt.sql with
      | error e => exact .mk _ h
      | ok prepared =>
        dsimp only
        split
        · exact .mk _ h
        · split
          · exact h.selectModel stmt
          · exact h.page _ _ _ _
    · split
      · exact .mk _ h
      · split
        · exact h.selectModel stmt
        · rw [selectPlain, selectPlain]
          split
          · exact h.firstRow stmt _ _
          · exact h.execute stmt _

theorem Twins.manualQuery (h : Twins L c.connection a b s t) (options : Options)
    (args : List Params) :
    SameRun L c.connection a b (s.manualQuery c options args) (t.manualQuery c options args) := by
  rw [Session.manualQuery, Session.manualQuery, h.paging]
  cases c.compile options args with
  | error e => exact .mk _ h
  | ok stmt =>
    dsimp only
    split
    · exact .mk _ h
    · split
      · split
        · exact .mk _ h
        · cases s.paging.prepare stmt.sql with
          | error e => exact .mk _ h
          | ok prepared => exact h.page _ _ _ _
      · split
        · exact h.firstRow stmt _ _
        · exact h.execute stmt _

theorem Twins.statement (h : Twins L c.connection a b s t) (verb : Verb) (options : Options)
    (args : List Params) :
    SameRun L c.connection a b (s.statement verb c options args)
      (t.statement verb c options args) := by
  rw [Session.statement, Session.statement]
  cases c.compile options args with
  | error e => exact .mk _ h
  | ok stmt =>
    have hrun := h.run stmt.sql stmt.params stmt.reading false
    dsimp only
    split
    · exact .mk _ h
    · cases verb
      case logHandler => exact h.runUnlogged stmt
      case count | «exists» | columns | tables => exact hrun.orElse _ _
      all_goals exact h.execute stmt false

omit [Store σ] in
theorem Twins.keyCommand (h : Twins L c.connection a b s t) (args : List Params) :
    SameRun L c.connection a b (s.keyCommand c args) (t.keyCommand c args) := by
  rw [Session.keyCommand, Session.keyCommand, h.connection]
  cases s.registry.find? c.connection with
  | none => exact .mk _ h
  | some conn =>
    have hput (keys : KeyMap) := h.modify (fun conn => { conn with keys }) (fun _ => rfl)
      fun d hd => (h.served d hd).congr ⟨d.config.logging, rfl⟩ (h.served d hd).link
    dsimp only
    split <;> exact .mk _ (hput _)

omit [Store σ] in
theorem Twins.cacheCommand (h : Twins L c.connection a b s t) :
    SameRun L c.connection a b (s.cacheCommand c) (t.cacheCommand c) := by
  rw [Session.cacheCommand, Session.cacheCommand, h.cache]
  split
  · exact .mk _ h
  · split
    · exact .mk _ h
    · exact .mk _ h
    · exact .mk _ (h.withCache _)

omit [Store σ] in
theorem Twins.pagingCommand (h : Twins L id a b s t) (args : List Params) :
    SameRun L id a b (s.pagingCommand args) (t.pagingCommand args) := by
  rw [Session.pagingCommand, Session.pagingCommand, h.paging]
  exact .mk _ (h.withPaging _)

omit [Store σ] in
theorem Twins.tell (h : Twins L id a b s t) (f : Connection β → Output) :
    SameRun L id a b (s.tell id f) (t.tell id f) := by
  rw [Session.tell, Session.tell, Registry.get, Registry.get, h.connection]
  cases s.registry.find? id <;> exact .mk _ h

omit [Store σ] in
theorem Twins.insertId (h : Twins L id a b s t) :
    SameRun L id a b (s.insertId id) (t.insertId id) :=
  ((h.throughLink (.lastInsertId id) _ fun d hd => (h.served d hd).lastInsertId).surface).orElse _ _

omit [Store σ] in
theorem Twins.transaction (h : Twins L id a b s t) (step : Transaction) :
    SameRun L id a b (s.transaction id step) (t.transaction id step) :=
  ((h.throughLink (.transaction id step) _ fun d hd =>
    (h.served d hd).transact step).surface).orElse _ _

omit [Store σ] in
/-- Of the verbs without SQL, only `debug` tells of other connections. -/
theorem Twins.control (h : Twins L c.connection a b s t) {verb : Verb} (hverb : verb ≠ .debug)
    (args : List Params) :
    SameRun L c.connection a b (s.control verb c args) (t.control verb c args) := by
  cases verb
  case key => exact h.keyCommand args
  case cache => exact h.cacheCommand
  case pagination => exact h.pagingCommand args
  case id => exact h.insertId
  case transaction | commit | rollback => exact h.transaction _
  case error | errorLast | log => exact h.tell _
  case debug => exact absurd rfl hverb
  all_goals exact .mk _ h

/-- **A command runs alike**, unless it tells of every connection. -/
theorem twins_runCommand (h : Twins L c.connection a b s t) (hverb : c.verb ≠ some .debug)
    (args : List Params) :
    SameRun L c.connection a b (s.runCommand c args) (t.runCommand c args) := by
  rw [runCommand, runCommand]
  split
  · exact h.select _ args
  · exact h.manualQuery _ args
  · rename_i verb _ hsome
    split
    · exact h.statement verb _ args
    · exact h.control (fun hdebug => hverb (hdebug ▸ hsome)) args

/-! ## Every call -/

omit [Gateway γ β] [Store σ] in
/-- Narrowing a command to its row changes its clause only. -/
theorem scopeRow_eq (c : Command) (keys : KeyMap) (quote : String → String) :
    ∃ clause, c.scopeRow keys quote = { c with clause } := by
  rw [Command.scopeRow]
  split
  · split
    · exact ⟨c.clause, rfl⟩
    · exact ⟨_, rfl⟩
  · exact ⟨c.clause, rfl⟩

omit [Store σ] in
theorem tokenize_eq (s : Session γ β σ) {text : String} (hparse : Command.parse text = .ok c) :
    ∃ clause, s.tokenize text = .ok { c with clause } := by
  obtain ⟨clause, hscope⟩ := scopeRow_eq c (s.keysOf c.connection) (Gateway.quote s.gateway)
  exact ⟨clause, by rw [tokenize, hparse, ← hscope]⟩

omit [Store σ] in
theorem Agree.tokenize (h : Agree L c.connection s t) {text : String}
    (hparse : Command.parse text = .ok c) : t.tokenize text = s.tokenize text := by
  simp only [Session.tokenize, hparse, keysOf, h.connection, h.quote _ _ h.gateway]

/-- A call that can be read runs alike. -/
theorem sameRun_exec (h : Agree L c.connection s t) {call : Call}
    (hparse : Command.parse call.command = .ok c) (hverb : c.verb ≠ some .debug) :
    SameRun L c.connection s.trace t.trace (s.exec call) (t.exec call) := by
  obtain ⟨clause, htokenize⟩ := tokenize_eq s hparse
  have htwins : Twins L c.connection s.trace t.trace s t :=
    ⟨h, [], (List.append_nil _).symm, (List.append_nil _).symm⟩
  have hrun := twins_runCommand (c := { c with clause }) htwins hverb call.args
  rw [exec, exec, h.tokenize hparse, htokenize]
  dsimp only
  generalize s.runCommand _ call.args = p, t.runCommand _ call.args = q at hrun
  obtain ⟨e | o, hafter⟩ := hrun
  · exact .mk _ hafter
  · cases call.decorator <;> exact .mk _ hafter

theorem frame_exec (s : Session γ β σ) {call : Call}
    (hparse : Command.parse call.command = .ok c) :
    Frame c.connection c.permits s (s.exec call).2 := by
  obtain ⟨clause, htokenize⟩ := tokenize_eq s hparse
  rw [(exec_of_tokenize s htokenize).1]
  exact frame_runCommand s { c with clause } call.args

/-- **A connection is isolated from the others, in both directions.**  A call leaves alone all that
its command may not change, however it ends; and what it gives and does, `debug` apart, depends on
nothing but its own connection, paging, cache and what the connection is answered: two sessions that
agree on these give the same result and tell the same events, and agree again. -/
theorem exec_isolated (s : Session γ β σ) (call : Call) (c : Command)
    (hparse : Command.parse call.command = .ok c) :
    Frame c.connection c.permits s (s.exec call).2 ∧
    ∀ (L : Likeness γ β) (t : Session γ β σ), c.verb ≠ some .debug → Agree L c.connection s t →
      (t.exec call).1 = (s.exec call).1 ∧
      Agree L c.connection (s.exec call).2 (t.exec call).2 ∧
      ∃ events, (s.exec call).2.trace = s.trace ++ events ∧
        (t.exec call).2.trace = t.trace ++ events := by
  refine ⟨frame_exec s hparse, fun L t hverb hagree => ?_⟩
  have hrun := sameRun_exec hagree hparse hverb
  generalize s.exec call = p, t.exec call = q at hrun
  obtain ⟨r, h⟩ := hrun
  exact ⟨rfl, h.toAgree, h.trace⟩

end Statements

/-- A statement without a log, over a link that cannot be opened, beside a connection that the other
session does not have: the log is on again, the error is noted, and both sessions say the same. -/
theorem exec_isolated_logHandler :
    let config : ConnectionConfig := { host := "h", database := "d", user := "u", password := "" }
    let one : Connection Unit := { id := 1, config := { config with errorHandler := true } }
    let two : Connection Unit := { id := 2, config, log := ["kept"] }
    let s : Session Unreachable Unit MemoryStore :=
      { gateway := ⟨⟩, registry := { connections := [one, two] } }
    let t : Session Unreachable Unit MemoryStore :=
      { gateway := ⟨⟩, registry := { connections := [one] } }
    let call : Call := { command := "users:log_handler", args := [.named ⟨[("a", .int 1)]⟩] }
    (s.exec call).2.registry.find? 2 = some two ∧
      (∃ d, (s.exec call).2.registry.find? 1 = some d ∧ d.config = one.config) ∧
      (t.exec call).1 = (s.exec call).1 := by
  intro config one two s t call
  have hparse : Command.parse "users:log_handler"
      = .ok { table := "users", verb := some .logHandler } := by cbv
  obtain ⟨hframe, hsame⟩ := exec_isolated s call _ hparse
  obtain ⟨d, hd, hgrows, -⟩ := hframe.connection one rfl
  refine ⟨hframe.registry.others 2 (by decide), ⟨d, hd, hgrows.config⟩, ?_⟩
  exact (hsame _ t (by decide) (Agree.of_gateway_eq rfl rfl rfl rfl)).1

end Session

end SqlShorthand
