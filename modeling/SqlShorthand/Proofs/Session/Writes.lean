import SqlShorthand.Proofs.Session.Sending

/-!
# Proofs/Session/Writes — SQL that writes is executed, unless the cache answers for it

The cache is asked before anyone looks at what a statement does.  So SQL that gives no rows — a
DELETE, an UPDATE — is executed exactly once (`contacts_of_writes`), but for one case: it was to be
answered from the cache, and a fresh list of rows lies under its key.  Such an entry can be put
there by hand, or reached by setting the key; then the rows are the answer, and nothing is executed.
-/

namespace SqlShorthand.Session

variable {γ β σ : Type} [Gateway γ β]

/-! ## Calls that write -/

/-- The SQL that is sent for SQL written by hand that is not paged. -/
def handSql (c : Command) (stmt : Statement) : String :=
  if (Options.resolve c.options).has .first then firstRowSql stmt.sql else stmt.sql

/-- How its outcome is read. -/
def handOutput (c : Command) : Outcome → Output :=
  if (Options.resolve c.options).has .first then firstOutput else outputOf

/-- **A call that writes**: SQL written by hand that gives no rows, that is neither to be shown nor
to be paged, and whose values can be bound; on a connection that is open or can be opened, with a
cache. -/
structure Writes (s : Session γ β σ) (call : Call) (c : Command) (stmt : Statement)
    (conn : Connection β) (cache : Cache σ) : Prop where
  compiles : Compiles s call c stmt
  verb : c.verb = some .query
  unshown : (Options.resolve c.options).has .query = false
  unpaged : (Options.resolve c.options).has .pagination = false
  bindable : stmt.params.ensureBindable = .ok ()
  shape : Reading.byKeyword.shape stmt.sql ≠ .rows
  connection : s.registry.find? c.connection = some conn
  cache : s.cache = some cache
  connects : conn.isConnected = true ∨ ∃ link, (Gateway.connect s.gateway conn.config).1 = .ok link

variable {s : Session γ β σ} {call : Call} {c : Command} {stmt : Statement} {conn : Connection β}
  {cache : Cache σ} {id : ConnectionId} {sql : String} {params : Params} {reading : Reading}

/-- SQL written by hand is read by its first word. -/
theorem reading_of_compile {options : Options} {args : List Params} (hverb : c.verb = some .query)
    (h : c.compile options args = .ok stmt) : stmt.reading = .byKeyword := by
  rw [Command.compile] at h
  split at h
  · cases h
  · rw [Command.compileBody, hverb] at h
    dsimp only at h
    split at h <;> cases h
    rfl

/-- The LIMIT of a first row does not change the shape. -/
theorem shape_handSql (c : Command) (stmt : Statement) (reading : Reading) :
    reading.shape (handSql c stmt) = reading.shape stmt.sql := by
  rw [handSql]
  split
  · rw [firstRowSql]
    split
    · rfl
    · exact Statement.shape_appendLimit reading stmt.sql "1"
  · rfl

theorem Writes.course (h : Writes s call c stmt conn cache) :
    s.course c call.args
      = .run (handSql c stmt) stmt.params .byKeyword ((Options.resolve c.options).has .cache)
          (.bool false) (handOutput c) := by
  have hreading := reading_of_compile h.verb h.compiles.statement
  rw [Session.course, h.verb]
  dsimp only
  rw [queryCourse, h.compiles.statement]
  dsimp only
  rw [h.unshown, h.unpaged, handSql, handOutput]
  simp only [Bool.false_eq_true, if_false]
  split
  · rfl
  · rw [executeCourse, hreading]

/-! ## What is executed -/

variable [Store σ]

/-- **The rows that the cache answers with**: it is to be asked, and a fresh entry under the key in
effect holds a list. -/
def answerRows? (cache : Cache σ) (id : ConnectionId) (c : Command) (stmt : Statement) :
    Option (List Json) :=
  if (Options.resolve c.options).has .cache then
    (cachedRows? cache (cache.keyFor id (handSql c stmt) stmt.params)).1
  else none

theorem contacts_of_writes (h : Writes s call c stmt conn cache) :
    s.contacts call
      = match answerRows? cache conn.id c stmt with
        | some _ => []
        | none => linkContacts s.gateway conn
            (.statement ⟨handSql c stmt, stmt.params, .byKeyword⟩) := by
  rw [contacts, h.compiles.command]
  dsimp only
  rw [h.connection]
  dsimp only
  rw [h.course]
  simp only [courseContacts, statementContacts, h.bindable, h.cache, answerRows?]
  split <;> rfl

omit [Store σ] in
/-- A statement without rows is executed, once, over a link that is opened first if it is not
open. -/
theorem events_linkContacts
    (hconnects : conn.isConnected = true ∨
      ∃ link, (Gateway.connect s.gateway conn.config).1 = .ok link)
    (hshape : reading.shape sql ≠ .rows) :
    (linkContacts s.gateway conn (.statement ⟨sql, params, reading⟩)).map Contact.event
      = (if conn.isConnected then []
          else [.connect conn.id conn.config.host conn.config.database]) ++
        [.execute conn.id sql params] := by
  rw [linkContacts, Connection.isConnected]
  rw [Connection.isConnected] at hconnects
  cases hlink : conn.link with
  | some link => simp [Contact.event, Request.event, hshape]
  | none =>
    rw [hlink] at hconnects
    obtain ⟨link, hlink⟩ := hconnects.resolve_left Bool.false_ne_true
    simp [hlink, Contact.event, Request.event, hshape]

/-! ## What is answered -/

/-- The outcome of a statement without rows, by its shape. -/
def countOutcome : Shape → Nat → Outcome
  | .affected, n => .affected n
  | _, _ => .done

/-- What the backend gives for a statement that it executes. -/
def executed (g : γ) (conn : Connection β) (sql : String) (params : Params) : Except Error Nat :=
  linkResult g conn fun g link => Gateway.execute g link sql params

omit [Store σ] in
theorem executed_pushLog (g : γ) (conn : Connection β) (line sql : String) (params : Params) :
    executed g (conn.pushLog line) sql params = executed g conn sql params :=
  linkResult_pushLog g conn line _

theorem send_fst (hconn : s.registry.find? id = some conn) (hshape : reading.shape sql ≠ .rows)
    (key : Option String) :
    (s.send id sql params reading key).1
      = (executed s.gateway conn sql params).map (countOutcome (reading.shape sql)) := by
  have hexecute := throughLink_fst hconn (.execute id sql params) fun g link =>
    Gateway.execute g link sql params
  rw [executed, ← hexecute, send]
  cases h : reading.shape sql with
  | rows => exact absurd h hshape
  | affected | done =>
    dsimp only
    generalize s.throughLink id (.execute id sql params) _ = executed
    obtain ⟨e | n, t⟩ := executed <;> rfl

/-- Where the cache has no answer, the backend's is given. -/
theorem answer_fst (hconn : s.registry.find? id = some conn) (hcache : s.cache = some cache)
    (hshape : reading.shape sql ≠ .rows) {useCache : Bool}
    (hmiss : useCache = true → (cachedRows? cache (cache.keyFor id sql params)).1 = none) :
    (s.answer id sql params reading useCache).1
      = (executed s.gateway conn sql params).map (countOutcome (reading.shape sql)) := by
  rw [answer]
  split
  · rename_i huse
    rw [lookUp_eq s id sql params hcache, hmiss huse]
    exact send_fst (s := { s with cache := some _ }) hconn hshape _
  · exact send_fst hconn hshape none

theorem dispatch_fst (hconn : s.registry.find? id = some conn) (hcache : s.cache = some cache)
    (hparams : params.ensureBindable = .ok ()) (hshape : reading.shape sql ≠ .rows)
    {useCache : Bool}
    (hmiss : useCache = true → (cachedRows? cache (cache.keyFor id sql params)).1 = none) :
    (s.dispatch id sql params reading useCache).1
      = (executed s.gateway conn sql params).map (countOutcome (reading.shape sql)) := by
  have hquery := find?_pushLog hconn (queryLine sql)
  have hline := (pushLog_cache s id (queryLine sql)).trans hcache
  rw [dispatch_eq_answer hconn sql hparams, logged]
  split
  · rw [answer_fst hquery hline hshape hmiss, pushLog_gateway, executed_pushLog]
  · rw [answer_fst (find?_pushLog hquery _) ((pushLog_cache _ id _).trans hline) hshape hmiss,
      pushLog_gateway, pushLog_gateway, executed_pushLog, executed_pushLog]

theorem handOutput_countOutcome (c : Command) (shape : Shape) (n : Nat) :
    handOutput c (countOutcome shape n) = outputOf (countOutcome shape n) := by
  rw [handOutput]
  split
  · cases shape <;> rfl
  · rfl

/-- Where the cache has no answer, the call gives what the backend gave. -/
theorem Writes.exec_of_executed (h : Writes s call c stmt conn cache)
    (hmiss : answerRows? cache conn.id c stmt = none) {n : Nat}
    (hexecuted : executed s.gateway conn (handSql c stmt) stmt.params = .ok n) :
    (s.exec call).1
      = presented call c.verb
          (.ok (outputOf (countOutcome (Reading.byKeyword.shape stmt.sql) n))) := by
  have hshape := shape_handSql c stmt .byKeyword
  have hmissed : (Options.resolve c.options).has .cache = true →
      (cachedRows? cache (cache.keyFor c.connection (handSql c stmt) stmt.params)).1 = none := by
    intro huse
    rwa [answerRows?, if_pos huse, Registry.id_of_find? h.connection] at hmiss
  have hdispatch := dispatch_fst h.connection h.cache h.bindable (hshape ▸ h.shape) hmissed
  rw [hexecuted, hshape] at hdispatch
  rw [exec_eq_presented h.compiles.command, runCommand_eq_follow, h.course, follow, run]
  generalize s.dispatch c.connection (handSql c stmt) stmt.params .byKeyword _ = ran at hdispatch
  obtain ⟨r, t⟩ := ran
  obtain rfl : r = .ok (countOutcome (Reading.byKeyword.shape stmt.sql) n) := hdispatch
  change presented call c.verb (.ok (handOutput c (countOutcome _ n))) = _
  rw [handOutput_countOutcome]

/-- Where the cache has an answer, the call gives that. -/
theorem Writes.exec_of_answerRows? (h : Writes s call c stmt conn cache) {rows : List Json}
    (hrows : answerRows? cache conn.id c stmt = some rows) :
    (s.exec call).1 = presented call c.verb (.ok (handOutput c (.rows rows))) := by
  rw [answerRows?] at hrows
  split at hrows
  · rename_i huse
    have hcourse := h.course
    rw [huse] at hcourse
    have hasks : Asks s call ⟨c, conn, handSql c stmt, stmt.params, .byKeyword, handOutput c⟩ :=
      ⟨h.compiles.command, h.connection, ⟨_, hcourse⟩, h.bindable⟩
    have hanswered : s.Answered ⟨c, conn, handSql c stmt, stmt.params, .byKeyword, handOutput c⟩
        (cache.keyFor conn.id (handSql c stmt) stmt.params) rows := by
      rw [Answered, lookUp_eq s _ _ _ h.cache, hrows]
    exact (hasks.exec_of_answered h.cache hanswered).1
  · cases hrows

/-- **SQL that writes is executed exactly once, unless the cache answers for it.**  Whatever the
cache holds and however it is set: where it has no answer, the backend is asked once to execute the
statement, and its answer is given; a fresh list of rows under the key in effect is given instead,
if the statement was to be answered from the cache, and then nothing is executed. -/
theorem write_executed_unless_cached (h : Writes s call c stmt conn cache) :
    (answerRows? cache conn.id c stmt = none →
      (s.exec call).2.backendEvents
          = s.backendEvents ++ ((if conn.isConnected then []
              else [.connect conn.id conn.config.host conn.config.database]) ++
            [.execute conn.id (handSql c stmt) stmt.params]) ∧
        ∀ n, executed s.gateway conn (handSql c stmt) stmt.params = .ok n →
          (s.exec call).1
            = presented call c.verb
                (.ok (outputOf (countOutcome (Reading.byKeyword.shape stmt.sql) n)))) ∧
    ∀ rows, answerRows? cache conn.id c stmt = some rows →
      (s.exec call).2.backendEvents = s.backendEvents ∧
        (s.exec call).1 = presented call c.verb (.ok (handOutput c (.rows rows))) := by
  have hevents := (contacted_exec s call).trace
  rw [contacts_of_writes h] at hevents
  refine ⟨fun hmiss => ⟨?_, fun n => h.exec_of_executed hmiss⟩,
    fun rows hrows => ⟨?_, h.exec_of_answerRows? hrows⟩⟩
  · rw [hmiss] at hevents
    dsimp only at hevents
    rwa [events_linkContacts h.connects (shape_handSql c stmt .byKeyword ▸ h.shape)] at hevents
  · rw [hrows] at hevents
    rwa [List.map_nil, List.append_nil] at hevents

/-- A DELETE that is to be answered from the cache, with an entry under its key that is no list of
rows: it is executed. -/
theorem write_executed_unless_cached_first :
    let conn : Connection Unit :=
      { id := 1, config := { host := "h", database := "d", user := "u", password := "" } }
    let cache : Cache MemoryStore :=
      { store := ⟨[("k", 1000, .int 7)]⟩, clock := .manual 1000 0, key := some "k" }
    let s : Session Counting Unit MemoryStore :=
      { gateway := {}, registry := { connections := [conn] }, cache := some cache }
    let call : Call := { command := ":query/cache/first DELETE FROM t" }
    (s.exec call).2.backendEvents = [.connect 1 "h" "d", .execute 1 "DELETE FROM t LIMIT 1" .none] ∧
      (s.exec call).1 = .ok (.affected 0) := by
  intro conn cache s call
  let c : Command :=
    { verb := some .query, options := ["cache", "first"], clause := "DELETE FROM t" }
  have h : Writes s call c ⟨"DELETE FROM t", .none, .byKeyword⟩ conn cache :=
    { compiles := by constructor <;> decide +kernel
      verb := rfl
      unshown := by decide +kernel
      unpaged := by decide +kernel
      bindable := rfl
      shape := by decide +kernel
      connection := rfl
      cache := rfl
      connects := .inr ⟨(), rfl⟩ }
  have hmiss : (answerRows? cache conn.id c ⟨"DELETE FROM t", .none, .byKeyword⟩).isNone := by
    decide +kernel
  have hsql : handSql c ⟨"DELETE FROM t", .none, .byKeyword⟩ = "DELETE FROM t LIMIT 1" := by
    decide +kernel
  have hshape : Reading.byKeyword.shape "DELETE FROM t" = .affected := by decide +kernel
  obtain ⟨hevents, hanswer⟩ :=
    (write_executed_unless_cached h).1 (Option.isNone_iff_eq_none.mp hmiss)
  have hresult := hanswer 0 rfl
  rw [hsql] at hevents
  rw [hshape] at hresult
  exact ⟨hevents, hresult⟩

/-- The same with rows under its key: they are given, and the DELETE is not executed. -/
theorem delete_answered_from_cache :
    let conn : Connection Unit :=
      { id := 1, config := { host := "h", database := "d", user := "u", password := "" } }
    let cache : Cache MemoryStore :=
      { store := ⟨[("k", 1000, .arr [.obj [("id", .int 1)]])]⟩, clock := .manual 1000 0
        key := some "k" }
    let s : Session Counting Unit MemoryStore :=
      { gateway := {}, registry := { connections := [conn] }, cache := some cache }
    let call : Call := { command := ":query/cache DELETE FROM t" }
    (∃ c, Writes s call c ⟨"DELETE FROM t", .none, .byKeyword⟩ conn cache) ∧
      (s.exec call).2.backendEvents = [] ∧
      (s.exec call).1 = .ok (.rows [.obj [("id", .int 1)]]) := by
  intro conn cache s call
  let c : Command := { verb := some .query, options := ["cache"], clause := "DELETE FROM t" }
  have h : Writes s call c ⟨"DELETE FROM t", .none, .byKeyword⟩ conn cache :=
    { compiles := by constructor <;> decide +kernel
      verb := rfl
      unshown := by decide +kernel
      unpaged := by decide +kernel
      bindable := rfl
      shape := by decide +kernel
      connection := rfl
      cache := rfl
      connects := .inr ⟨(), rfl⟩ }
  have hcached : (Options.resolve c.options).has .cache = true := by decide +kernel
  have hfirst : (Options.resolve c.options).has .first = false := by decide +kernel
  have hrows : answerRows? cache conn.id c ⟨"DELETE FROM t", .none, .byKeyword⟩
      = some [.obj [("id", .int 1)]] := by
    rw [answerRows?, if_pos hcached]
    rfl
  have hresult := h.exec_of_answerRows? hrows
  rw [handOutput, hfirst] at hresult
  exact ⟨⟨c, h⟩, by decide +kernel, hresult⟩

end SqlShorthand.Session
