import SqlShorthand.Proofs.Session.Coherence
import SqlShorthand.Proofs.Session.Contact
import SqlShorthand.Proofs.Statement.Keyword

/-!
# Proofs/Session/Sending — the SQL that a call sends

A command compiles to one statement, and that statement is shown, or described as a record, or
refused, or sent (`Fate`).  Nothing else is ever sent: what reaches a backend is the compiled SQL,
or that SQL with a LIMIT at its end (`Sendable`), with the compiled values (`compiles_of_sent?`).

A LIMIT is added in three places, under three guards.  A page of a selection and its first row are
asked of SQL that was compiled as a SELECT; a page of SQL written by hand is asked of a SELECT only;
but the first row is asked of any SQL that was written by hand.  `sent_sql_limited_as_asked` puts
them together.
-/

namespace SqlShorthand

/-- The SQL and the values of an event that sends a statement. -/
def Event.sent? : Event → Option (String × Params)
  | .fetch _ sql params | .execute _ sql params => some (sql, params)
  | _ => none

/-- **The SQL that a command may send** for the SQL that it compiled to. -/
inductive Sendable (c : Command) (sql : String) : String → Prop where
  /-- As it was compiled. -/
  | plain : Sendable c sql sql
  /-- A SELECT without a LIMIT, with one. -/
  | select (limit : String) (hselect : Statement.isSelectSql sql = true)
      (hlimit : Statement.hasLimit sql = false) : Sendable c sql (Statement.appendLimit sql limit)
  /-- SQL written by hand without a LIMIT, of which the first row is asked for. -/
  | first (hverb : c.verb = some .query) (hfirst : (Options.resolve c.options).has .first = true)
      (hlimit : Statement.hasLimit sql = false) : Sendable c sql (Statement.appendLimit sql "1")

namespace Session

variable {γ β σ : Type}

/-! ## What becomes of a compiled statement -/

/-- **What becomes of a compiled statement.** -/
inductive Fate (s : Session γ β σ) (c : Command) (stmt : Statement) : Course γ β σ → Prop where
  /-- Its SQL is shown. -/
  | shown (sql : String) : Fate s c stmt (.settled (.ok (.sql sql)) s)
  /-- It is described as a record. -/
  | described (m : ModelQuery) : Fate s c stmt (.settled (.ok (.model m)) s)
  | refused (e : Error) (h : e.errorClass = .grammar) : Fate s c stmt (.settled (.error e) s)
  | unknown (h : s.registry.find? c.connection = none) :
      Fate s c stmt (.settled (.error (.unknownConnection c.connection)) s)
  /-- It is sent, with its own values. -/
  | sent {sql : String} (h : Sendable c stmt.sql sql) (reading : Reading) (useCache : Bool)
      (neutral : Output) (finish : Outcome → Output) :
      Fate s c stmt (.run sql stmt.params reading useCache neutral finish)
  /-- It is sent, and not logged. -/
  | unlogged : Fate s c stmt (.runUnlogged stmt)

variable {s : Session γ β σ} {c : Command} {args : List Params} {stmt : Statement}

/-- The first row of SQL without a LIMIT is asked for with one. -/
theorem sendable_firstRowSql {sql : String}
    (h : Statement.hasLimit sql = false → Sendable c sql (Statement.appendLimit sql "1")) :
    Sendable c sql (firstRowSql sql) := by
  rw [firstRowSql]
  split
  · exact .plain
  · exact h (Bool.eq_false_iff.mpr ‹_›)

/-- A page is asked of SQL without a LIMIT, with one. -/
theorem sendable_prepare {p : Paging} {sql paged : String} {window : Paging.Window}
    (hselect : Statement.isSelectSql sql = true) (h : p.prepare sql = .ok (paged, window)) :
    Sendable c sql paged := by
  rw [Paging.prepare] at h
  split at h
  · cases h
  · rename_i hlimit
    simp only [Except.ok.injEq, Prod.mk.injEq] at h
    rw [← h.1]
    exact .select _ hselect (Bool.eq_false_iff.mpr hlimit)

theorem errorClass_of_prepare {p : Paging} {sql : String} {e : Error}
    (h : p.prepare sql = .error e) : e.errorClass = .grammar := by
  rw [Paging.prepare] at h
  split at h <;> cases h
  rfl

theorem fate_modelCourse (s : Session γ β σ) (c : Command) (stmt : Statement) :
    Fate s c stmt (s.modelCourse c stmt) := by
  rw [modelCourse, selectModel]
  split
  · exact .refused _ rfl
  · rw [Registry.get]
    cases h : s.registry.find? c.connection with
    | none => exact .unknown h
    | some conn => exact .described _

/-- A selection: compiled as a SELECT, so both its page and its first row are those of one. -/
theorem fate_selectCourse {options : Options} (hverb : c.verb = none)
    (h : c.compile options args = .ok stmt) : Fate s c stmt (s.selectCourse c options args) := by
  have hselect := Statement.isSelectSql_select hverb h
  rw [selectCourse, h]
  dsimp only
  split
  · cases hprepare : s.paging.prepare stmt.sql with
    | error e => exact .refused e (errorClass_of_prepare hprepare)
    | ok prepared =>
      dsimp only
      split
      · exact .shown _
      · split
        · exact fate_modelCourse s c stmt
        · exact .sent (sendable_prepare hselect hprepare) _ _ _ _
  · split
    · exact .shown _
    · split
      · exact fate_modelCourse s c stmt
      · split
        · exact .sent (sendable_firstRowSql (.select "1" hselect)) _ _ _ _
        · exact .sent .plain _ _ _ _

/-- SQL written by hand: its page is that of a SELECT, its first row that of anything. -/
theorem fate_queryCourse (hverb : c.verb = some .query)
    (h : c.compile (.resolve c.options) args = .ok stmt) :
    Fate s c stmt (s.queryCourse c (.resolve c.options) args) := by
  rw [queryCourse, h]
  dsimp only
  split
  · exact .shown _
  · split
    · split
      · exact .refused _ rfl
      · rename_i hselect
        rw [Bool.not_eq_true, Bool.not_eq_false'] at hselect
        cases hprepare : s.paging.prepare stmt.sql with
        | error e => exact .refused e (errorClass_of_prepare hprepare)
        | ok prepared => exact .sent (sendable_prepare hselect hprepare) _ _ _ _
    · split
      · rename_i hfirst
        exact .sent (sendable_firstRowSql (.first hverb hfirst)) _ _ _ _
      · exact .sent .plain _ _ _ _

theorem fate_statementCourse {verb : Verb} {options : Options}
    (h : c.compile options args = .ok stmt) :
    Fate s c stmt (s.statementCourse verb c options args) := by
  rw [statementCourse, h]
  dsimp only
  split
  · exact .shown _
  · cases verb
    case logHandler => exact .unlogged
    all_goals exact .sent .plain _ _ _ _

/-- Only a verb with SQL compiles. -/
theorem producesSql_of_compile {options : Options} {verb : Verb} (hverb : c.verb = some verb)
    (h : c.compile options args = .ok stmt) : verb.producesSql = true := by
  rw [Command.compile] at h
  split at h
  · cases h
  · rw [Command.compileBody, hverb] at h
    cases verb <;> first | rfl | cases h

variable [Gateway γ β]

/-- **Every compiled statement has one of these fates.** -/
theorem fate_course (h : c.compile (.resolve c.options) args = .ok stmt) :
    Fate s c stmt (s.course c args) := by
  rw [course]
  split
  · exact fate_selectCourse ‹_› h
  · exact fate_queryCourse ‹_› h
  · rename_i verb _ hverb
    rw [producesSql_of_compile hverb h, if_pos rfl]
    exact fate_statementCourse h

/-- A command that does not compile asks for no statement. -/
theorem request?_of_compile_error {e : Error} (h : c.compile (.resolve c.options) args = .error e)
    (stmt : Statement) : (s.course c args).request? ≠ some (.statement stmt) := by
  intro hrequest
  rw [course] at hrequest
  split at hrequest
  · rw [selectCourse, h] at hrequest
    cases hrequest
  · rw [queryCourse, h] at hrequest
    cases hrequest
  · rename_i verb _ _
    split at hrequest
    · rw [statementCourse, h] at hrequest
      cases hrequest
    · cases verb <;> cases hrequest

/-! ## What is sent was compiled -/

/-- The command that a call denotes, and the statement that it compiles to. -/
structure Compiles (s : Session γ β σ) (call : Call) (c : Command) (stmt : Statement) : Prop where
  command : s.tokenize call.command = .ok c
  statement : c.compile (.resolve c.options) call.args = .ok stmt

variable {call : Call} {id : ConnectionId} {request : Request} {contact : Contact} {sql : String}
  {params : Params}

/-- What a call makes of its result: a decorated one, if it asks for that. -/
def presented (call : Call) (verb : Option Verb) : Except Error Output → Except Error Output
  | .ok o => .ok (match call.decorator with
    | some d => o.decorate d verb
    | none => o)
  | .error e => .error e

theorem exec_eq_presented [Store σ] (h : s.tokenize call.command = .ok c) :
    s.exec call
      = (presented call c.verb (s.runCommand c call.args).1, (s.runCommand c call.args).2) := by
  rw [exec, h]
  dsimp only
  obtain ⟨r, t⟩ := s.runCommand c call.args
  cases r with
  | error e => rfl
  | ok o => cases hdecorator : call.decorator <;> simp only [presented, hdecorator]

/-- Only a statement is sent. -/
theorem asked_of_sent? (h : contact.event.sent? = some (sql, params)) :
    ∃ id reading, contact = .asked id (.statement ⟨sql, params, reading⟩) := by
  cases contact with
  | connect => cases h
  | asked id request =>
    cases request with
    | statement stmt =>
      rw [Contact.event, Request.event] at h
      split at h <;> cases h <;> exact ⟨id, stmt.reading, rfl⟩
    | lastInsertId | transaction => cases h

/-- A backend is asked for nothing but the request of the call. -/
theorem request?_of_mem_contacts [Store σ] (h : .asked id request ∈ s.contacts call) :
    s.request? call = some request := by
  have hexchange := exchange_contacts s call
  generalize s.contacts call = history at h hexchange
  cases hexchange with
  | quiet => cases h
  | asked c request' _ _ hrequest =>
    cases List.mem_singleton.mp h
    exact hrequest
  | refused => cases List.mem_singleton.mp h
  | opened c logging link request' _ _ _ hrequest =>
    rcases List.mem_cons.mp h with h | h
    · cases h
    · cases List.mem_singleton.mp h
      exact hrequest

/-- A request for a statement comes of one that was compiled. -/
theorem compiles_of_request? (h : s.request? call = some (.statement stmt)) :
    ∃ c compiled, Compiles s call c compiled ∧ stmt.params = compiled.params ∧
      Sendable c compiled.sql stmt.sql := by
  rw [request?] at h
  split at h
  · cases h
  · rename_i c hcommand
    cases hcompile : c.compile (.resolve c.options) call.args with
    | error e => exact absurd h (request?_of_compile_error hcompile stmt)
    | ok compiled =>
      refine ⟨c, compiled, ⟨hcommand, hcompile⟩, ?_⟩
      have hfate := fate_course (s := s) hcompile
      generalize s.course c call.args = course at h hfate
      cases hfate with
      | shown | described | refused | unknown => cases h
      | sent hsql =>
        cases h
        exact ⟨rfl, hsql⟩
      | unlogged =>
        cases h
        exact ⟨rfl, .plain⟩

/-- **What is sent was compiled**: the SQL as it may be sent, with the compiled values. -/
theorem compiles_of_sent? [Store σ] (hmem : contact ∈ s.contacts call)
    (hsent : contact.event.sent? = some (sql, params)) :
    ∃ c stmt, Compiles s call c stmt ∧ params = stmt.params ∧ Sendable c stmt.sql sql := by
  obtain ⟨id, reading, rfl⟩ := asked_of_sent? hsent
  exact compiles_of_request? (request?_of_mem_contacts hmem)

/-! ## Where a LIMIT is added -/

/-- **A LIMIT is added to a SELECT, or where the first row of SQL written by hand is asked for.**
The SQL that reaches a backend is the compiled SQL as it stands; or, if that has no LIMIT, the
compiled SQL with one, and then it is a SELECT, or it was written by hand and its first row was
asked for. -/
theorem sent_sql_limited_as_asked [Store σ] (s : Session γ β σ) (call : Call) :
    ∃ sent, (s.exec call).2.backendEvents = s.backendEvents ++ sent ∧
      ∀ event ∈ sent, ∀ sql params, event.sent? = some (sql, params) →
        ∃ c stmt, Compiles s call c stmt ∧ params = stmt.params ∧ Sendable c stmt.sql sql := by
  refine ⟨_, (contacted_exec s call).trace, fun event hevent sql params hsent => ?_⟩
  obtain ⟨contact, hmem, rfl⟩ := List.mem_map.mp hevent
  exact compiles_of_sent? hmem hsent

/-- The first page of a selection. -/
theorem sent_sql_limited_as_asked_page :
    let config : ConnectionConfig := { host := "h", database := "d", user := "u", password := "" }
    let s : Session Counting Unit MemoryStore :=
      { gateway := {}, registry := { connections := [{ id := 1, config }] } }
    let call : Call := { command := "users/pagination" }
    (s.exec call).2.backendEvents
        = [.connect 1 "h" "d", .fetch 1 "SELECT * FROM users LIMIT 0, 11" .none] ∧
      ∃ c stmt, Compiles s call c stmt ∧
        Sendable c stmt.sql "SELECT * FROM users LIMIT 0, 11" := by
  intro config s call
  have hevents : (s.exec call).2.backendEvents
      = [.connect 1 "h" "d", .fetch 1 "SELECT * FROM users LIMIT 0, 11" .none] := by decide +kernel
  obtain ⟨sent, hsent, hsql⟩ := sent_sql_limited_as_asked s call
  obtain rfl : _ = sent := hevents.symm.trans hsent
  obtain ⟨c, stmt, hcompiles, -, hsendable⟩ :=
    hsql (.fetch 1 "SELECT * FROM users LIMIT 0, 11" .none) (by simp) _ _ rfl
  exact ⟨hevents, c, stmt, hcompiles, hsendable⟩

/-- The first row of an UPDATE is asked for as that of a SELECT is: the LIMIT reaches the backend,
and with it another statement than the one that was written. -/
theorem first_row_limits_update :
    let config : ConnectionConfig := { host := "h", database := "d", user := "u", password := "" }
    let s : Session Counting Unit MemoryStore :=
      { gateway := {}, registry := { connections := [{ id := 1, config }] } }
    let call : Call := { command := ":query/first UPDATE t SET a = 1" }
    let stmt : Statement := ⟨"UPDATE t SET a = 1", .none, .byKeyword⟩
    (∃ c, Compiles s call c stmt) ∧ Statement.isSelectSql stmt.sql = false ∧
      (s.exec call).2.backendEvents
        = [.connect 1 "h" "d", .execute 1 "UPDATE t SET a = 1 LIMIT 1" .none] := by
  intro config s call stmt
  refine ⟨⟨{ verb := some .query, options := ["first"], clause := "UPDATE t SET a = 1" }, ?_, ?_⟩,
    ?_, ?_⟩
  all_goals decide +kernel

end Session

end SqlShorthand
