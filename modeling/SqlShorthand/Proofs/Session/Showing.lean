import SqlShorthand.Proofs.Options
import SqlShorthand.Proofs.Session.Sending
import SqlShorthand.Proofs.Statement.Limit

/-!
# Proofs/Session/Showing — SQL that is shown instead of run

With the flag QUERY a command gives its SQL and does nothing else.  Both the SQL that is shown and
the SQL that is sent is the compiled SQL, of one page or as it stands (`Command.sqlAs`):

* `shown_call_has_no_effect` — a call that shows its SQL leaves the session as it is, and asks
  nothing of it but its keys, its paging, and how the id of a row is written;
* `sent_as_shown_iff` — without the flag, the SQL that was shown is the SQL that is sent, except
  for a page of SQL written by hand: that is sent with a LIMIT and shown without.
-/

namespace SqlShorthand

namespace Command

/-! ## The SQL of a command -/

variable {c : Command} {paged : Bool} {p : Paging} {options options' : Options}
  {args : List Params} {sql : String}

/-- **The SQL of a command**: the compiled SQL as it stands, or that of the current page. -/
def sqlAs (c : Command) (paged : Bool) (p : Paging) (args : List Params) : Except Error String :=
  match c.compile (.resolve c.options) args with
  | .error e => .error e
  | .ok stmt => if paged then (p.prepare stmt.sql).map Prod.fst else .ok stmt.sql

/-- SQL is shown as that of a page for a selection only… -/
def showsPage (c : Command) : Bool := c.verb.isNone && (Options.resolve c.options).has .pagination

/-- …and sent as that also if it was written by hand. -/
def sendsPage (c : Command) : Bool :=
  (c.verb.isNone || c.verb == some .query) && (Options.resolve c.options).has .pagination

/-- One page of SQL written by hand. -/
def PagedByHand (c : Command) : Prop :=
  c.verb = some .query ∧ (Options.resolve c.options).has .pagination = true

/-- No SQL is a fault of the command. -/
theorem errorClass_of_sqlAs {e : Error} (h : c.sqlAs paged p args = .error e) :
    e.errorClass = .grammar := by
  rw [sqlAs] at h
  split at h
  · cases h
    exact errorClass_of_compile ‹_›
  · split at h
    · cases hprepare : p.prepare _ with
      | error e' =>
        rw [hprepare] at h
        cases h
        exact Session.errorClass_of_prepare hprepare
      | ok prepared =>
        rw [hprepare] at h
        cases h
    · cases h

theorem sqlAs_of_compile {stmt : Statement} (h : c.compile (.resolve c.options) args = .ok stmt) :
    c.sqlAs paged p args
      = if paged then (p.prepare stmt.sql).map Prod.fst else .ok stmt.sql := by
  rw [sqlAs, h]

theorem compile_of_sqlAs_false (h : c.sqlAs false p args = .ok sql) :
    ∃ stmt, c.compile (.resolve c.options) args = .ok stmt ∧ stmt.sql = sql := by
  rw [sqlAs] at h
  split at h
  · cases h
  · rename_i stmt hcompile
    exact ⟨stmt, hcompile, Except.ok.inj h⟩

/-- **The page of SQL has a LIMIT that the SQL has not.** -/
theorem sqlAs_true_of_false (h : c.sqlAs false p args = .ok sql) {page : String}
    (hpage : c.sqlAs true p args = .ok page) :
    page = Statement.appendLimit sql p.window.limit ∧ page ≠ sql := by
  obtain ⟨stmt, hcompile, rfl⟩ := compile_of_sqlAs_false h
  simp only [sqlAs, hcompile, if_true, Paging.prepare] at hpage
  split at hpage
  · cases hpage
  · rename_i hlimit
    obtain rfl : Statement.appendLimit stmt.sql p.window.limit = page := Except.ok.inj hpage
    refine ⟨rfl, fun hsame => hlimit ?_⟩
    rw [← hsame]
    exact Statement.hasLimit_appendLimit stmt.sql p.window.isAmount_limit

/-- Only a verb with SQL has SQL. -/
theorem producesSql_of_sqlAs (h : c.sqlAs paged p args = .ok sql) :
    ∀ verb ∈ c.verb, verb.producesSql = true := by
  intro verb hverb
  cases hcompile : c.compile (.resolve c.options) args with
  | error e =>
    rw [sqlAs, hcompile] at h
    cases h
  | ok stmt => exact Session.producesSql_of_compile hverb hcompile

theorem PagedByHand.showsPage (h : c.PagedByHand) : c.showsPage = false := by
  rw [Command.showsPage, h.1]
  rfl

theorem PagedByHand.sendsPage (h : c.PagedByHand) : c.sendsPage = true := by
  rw [Command.sendsPage, h.1, h.2]
  rfl

/-- **Only a page of SQL written by hand is sent otherwise than it is shown.** -/
theorem sendsPage_of_not_pagedByHand (h : ¬c.PagedByHand) : c.sendsPage = c.showsPage := by
  rw [PagedByHand, not_and, Bool.not_eq_true] at h
  by_cases hverb : c.verb = some .query
  · rw [sendsPage, showsPage, h hverb, Bool.and_false, Bool.and_false]
  · rw [sendsPage, showsPage, beq_eq_false_iff_ne.mpr hverb, Bool.or_false]

/-! ## Without a flag -/

/-- The command without the words of a flag. -/
def without (c : Command) (f : Flag) : Command := { c with options := Options.dropFlag f c.options }

/-- Only the keywords of the options go into a statement. -/
theorem compile_congr (h : options.modifiers = options'.modifiers) :
    c.compile options args = c.compile options' args := by
  have hsql : options.modifierSql = options'.modifierSql := by
    rw [Options.modifierSql, Options.modifierSql, h]
  simp only [compile, compileBody, Statement.insert, Statement.update, hsql]

theorem sqlAs_without (c : Command) (f : Flag) (paged : Bool) (p : Paging) (args : List Params) :
    (c.without f).sqlAs paged p args = c.sqlAs paged p args := by
  have hcompile : (c.without f).compile (.resolve (c.without f).options) args
      = c.compile (.resolve c.options) args :=
    compile_congr (Options.modifiers_resolve_dropFlag f c.options)
  rw [sqlAs, hcompile, sqlAs]

theorem sendsPage_without_query (c : Command) : (c.without .query).sendsPage = c.sendsPage := by
  have hpaged := Options.has_resolve_dropFlag .query .pagination c.options
  rw [show (Flag.pagination != Flag.query) = true from rfl, Bool.and_true] at hpaged
  rw [sendsPage, sendsPage, without, hpaged]

end Command

/-- **A command that asks for its SQL**: its verb, if it has one, compiles, and one of its words is
QUERY, in any case. -/
structure Command.AsksForSql (c : Command) : Prop where
  verb : ∀ verb ∈ c.verb, verb.producesSql = true
  query : ∃ token ∈ c.options, Text.sameIgnoringCase "QUERY" token = true

theorem Command.asksForSql_iff {c : Command} :
    c.AsksForSql ↔ (∀ verb ∈ c.verb, verb.producesSql = true) ∧
      (Options.resolve c.options).has .query = true := by
  rw [Options.has_resolve_iff, Flag.name]
  exact ⟨fun h => ⟨h.verb, h.query⟩, fun h => ⟨h.1, h.2⟩⟩

namespace Session

variable {γ β σ : Type} [Gateway γ β] {s : Session γ β σ} {c : Command} {args : List Params}

/-! ## What is shown -/

/-- **A command that asks for its SQL is settled with it**: the flag is looked at before the model,
the first row, the cache and the connection. -/
theorem course_of_asksForSql (s : Session γ β σ) (h : c.AsksForSql) (args : List Params) :
    s.course c args = .settled ((c.sqlAs c.showsPage s.paging args).map .sql) s := by
  have hquery := (Command.asksForSql_iff.mp h).2
  rw [course]
  split
  · rename_i hverb
    simp only [selectCourse, Command.sqlAs, Command.showsPage, hverb, hquery]
    cases c.compile (.resolve c.options) args with
    | error e => rfl
    | ok stmt =>
      cases (Options.resolve c.options).has .pagination with
      | false => rfl
      | true => cases hprepare : s.paging.prepare stmt.sql <;> simp [hprepare, Except.map]
  · rename_i hverb
    simp only [queryCourse, Command.sqlAs, Command.showsPage, hverb, hquery]
    cases c.compile (.resolve c.options) args <;> rfl
  · rename_i verb _ hverb
    rw [h.verb verb hverb, if_pos rfl]
    simp only [statementCourse, Command.sqlAs, Command.showsPage, hverb, hquery]
    cases c.compile (.resolve c.options) args <;> rfl

variable [Store σ] {call : Call}

/-- Narrowing a command to its row does not change what it asks for. -/
theorem exec_of_asksForSql (s : Session γ β σ) (hparse : Command.parse call.command = .ok c)
    (hdecorator : call.decorator = none) (h : c.AsksForSql) :
    s.exec call
      = (((c.scopeRow (s.keysOf c.connection) (Gateway.quote s.gateway)).sqlAs c.showsPage s.paging
          call.args).map .sql, s) := by
  obtain ⟨clause, hscope⟩ := scopeRow_eq c (s.keysOf c.connection) (Gateway.quote s.gateway)
  have htokenize : s.tokenize call.command = .ok { c with clause } := by
    rw [tokenize, hparse, ← hscope]
  have hscoped : Command.AsksForSql { c with clause } := ⟨h.verb, h.query⟩
  rw [exec_eq_presented htokenize, runCommand_eq_follow, course_of_asksForSql s hscoped, hscope]
  change (presented call c.verb ((Command.sqlAs { c with clause } c.showsPage s.paging
    call.args).map .sql), s) = _
  cases Command.sqlAs { c with clause } c.showsPage s.paging call.args with
  | error e => rfl
  | ok sql => simp [presented, hdecorator, Except.map]

theorem exec_fst_of_sqlAs (hparse : Command.parse call.command = .ok c)
    (hdecorator : call.decorator = none) (h : c.AsksForSql) {sql : String}
    (hsql : (c.scopeRow (s.keysOf c.connection) (Gateway.quote s.gateway)).sqlAs c.showsPage
      s.paging call.args = .ok sql) : (s.exec call).1 = .ok (.sql sql) := by
  rw [exec_of_asksForSql s hparse hdecorator h, hsql]
  rfl

/-- **Two sessions that read a command alike**, whatever their gateways, links and stores are: if it
names a row, they agree on the key column and on how the row's id is written; and if it shows a
page, on the paging. -/
structure ReadsAlike {γ' β' σ' : Type} [Gateway γ' β'] (c : Command) (s : Session γ β σ)
    (t : Session γ' β' σ') : Prop where
  key : c.rowId.isSome = true →
    (t.keysOf c.connection).get c.table = (s.keysOf c.connection).get c.table
  quote : ∀ row ∈ c.rowId, Gateway.quote t.gateway row = Gateway.quote s.gateway row
  paging : c.showsPage = true → t.paging = s.paging

omit [Store σ] in
theorem ReadsAlike.sqlAs_scopeRow {γ' β' σ' : Type} [Gateway γ' β'] {t : Session γ' β' σ'}
    (h : ReadsAlike c s t) (args : List Params) :
    (c.scopeRow (t.keysOf c.connection) (Gateway.quote t.gateway)).sqlAs c.showsPage t.paging args
      = (c.scopeRow (s.keysOf c.connection) (Gateway.quote s.gateway)).sqlAs c.showsPage s.paging
          args := by
  have hscope : c.scopeRow (t.keysOf c.connection) (Gateway.quote t.gateway)
      = c.scopeRow (s.keysOf c.connection) (Gateway.quote s.gateway) := by
    rw [Command.scopeRow, Command.scopeRow]
    cases hrow : c.rowId with
    | none => rfl
    | some row => simp only [h.key (by rw [hrow]; rfl), h.quote row hrow]
  rw [hscope]
  cases hpage : c.showsPage with
  | true => rw [h.paging hpage]
  | false => simp only [Command.sqlAs, Bool.false_eq_true, if_false]

/-- **A call that shows its SQL has no effect.**  Whatever other words it carries, it gives SQL or a
fault of its grammar; the session stays as it is, with its registry, cache, gateway and trace; and
a session over another gateway and another store, with or without the connection and a cache,
answers the same if only it reads the command alike. -/
theorem shown_call_has_no_effect (s : Session γ β σ) (call : Call) (c : Command)
    (hparse : Command.parse call.command = .ok c) (hdecorator : call.decorator = none)
    (h : c.AsksForSql) :
    (s.exec call).2 = s ∧
      ((∃ sql, (s.exec call).1 = .ok (.sql sql)) ∨
        ∃ e, (s.exec call).1 = .error e ∧ e.errorClass = .grammar) ∧
      ∀ {γ' β' σ' : Type} [Gateway γ' β'] [Store σ'] (t : Session γ' β' σ'),
        ReadsAlike c s t → (t.exec call).1 = (s.exec call).1 := by
  rw [exec_of_asksForSql s hparse hdecorator h]
  refine ⟨rfl, ?_, fun t ht => ?_⟩
  · generalize hsql : (c.scopeRow (s.keysOf c.connection) (Gateway.quote s.gateway)).sqlAs
      c.showsPage s.paging call.args = result
    cases result with
    | ok sql => exact .inl ⟨sql, rfl⟩
    | error e => exact .inr ⟨e, rfl, Command.errorClass_of_sqlAs hsql⟩
  · rw [exec_of_asksForSql t hparse hdecorator h, ht.sqlAs_scopeRow]

/-- One row, with every flag: the answer is the one of a session without the connection and without
a cache, whose gateway opens no link. -/
theorem shown_call_has_no_effect_row :
    let config : ConnectionConfig := { host := "h", database := "d", user := "u", password := "" }
    let s : Session Counting Unit MemoryStore :=
      { gateway := {}, registry := { connections := [{ id := 1, config }] }
        cache := some { store := {}, clock := .manual 1000 0 } }
    let t : Session Unreachable Unit MemoryStore := { gateway := {} }
    let call : Call :=
      { command := "users.7/cache/first/QuErY/model/array/pagination/distinct WHERE a = 1" }
    (s.exec call).2 = s ∧ (t.exec call).1 = (s.exec call).1 ∧
      (s.exec call).1
        = .ok (.sql "SELECT DISTINCT * FROM users WHERE id=7 AND a = 1 LIMIT 0, 11") := by
  intro config s t call
  let c : Command :=
    { table := "users", rowId := some "7", clause := "WHERE a = 1"
      options := ["cache", "first", "QuErY", "model", "array", "pagination", "distinct"] }
  have hparse : Command.parse call.command = .ok c := by decide +kernel
  have h : c.AsksForSql := ⟨by simp [c], "QuErY", by decide, by decide⟩
  have hkeys : t.keysOf c.connection = s.keysOf c.connection := rfl
  obtain ⟨hsession, -, hresult⟩ := shown_call_has_no_effect s call c hparse rfl h
  exact ⟨hsession, hresult t ⟨fun _ => by rw [hkeys], fun _ _ => rfl, fun _ => rfl⟩,
    exec_fst_of_sqlAs hparse rfl h (by decide +kernel)⟩

/-! ## What is sent -/

section Requests

omit [Store σ] [Gateway γ β]

variable {stmt compiled : Statement} {verb : Verb}

theorem sqlAs_of_selectCourse (hverb : c.verb = none) (hrow : c.rowId = none)
    (hfirst : (Options.resolve c.options).has .first = false)
    (hcompile : c.compile (.resolve c.options) args = .ok compiled)
    (h : (s.selectCourse c (.resolve c.options) args).request? = some (.statement stmt)) :
    c.sqlAs c.sendsPage s.paging args = .ok stmt.sql := by
  have hpage : c.sendsPage = (Options.resolve c.options).has .pagination := by
    simp [Command.sendsPage, hverb]
  rw [Command.sqlAs_of_compile hcompile, hpage]
  simp only [selectCourse, hcompile, hrow, hfirst] at h
  split at h
  · rename_i hpaged
    rw [if_pos hpaged]
    split at h
    · cases h
    · rename_i hprepare
      rw [hprepare]
      split at h
      · cases h
      · split at h <;> cases h
        rfl
  · rename_i hpaged
    rw [if_neg hpaged]
    split at h
    · cases h
    · split at h <;> cases h
      rfl

theorem sqlAs_of_queryCourse (hverb : c.verb = some .query)
    (hfirst : (Options.resolve c.options).has .first = false)
    (hcompile : c.compile (.resolve c.options) args = .ok compiled)
    (h : (s.queryCourse c (.resolve c.options) args).request? = some (.statement stmt)) :
    c.sqlAs c.sendsPage s.paging args = .ok stmt.sql := by
  have hpage : c.sendsPage = (Options.resolve c.options).has .pagination := by
    simp [Command.sendsPage, hverb]
  rw [Command.sqlAs_of_compile hcompile, hpage]
  simp only [queryCourse, hcompile, hfirst] at h
  split at h
  · cases h
  · split at h
    · rename_i hpaged
      rw [if_pos hpaged]
      split at h
      · cases h
      · split at h <;> cases h
        rename_i hprepare
        rw [hprepare]
        rfl
    · rename_i hpaged
      rw [if_neg hpaged]
      cases h
      rfl

theorem sqlAs_of_statementCourse (hverb : c.verb = some verb) (hquery : verb ≠ .query)
    (hcompile : c.compile (.resolve c.options) args = .ok compiled)
    (h : (s.statementCourse verb c (.resolve c.options) args).request? = some (.statement stmt)) :
    c.sqlAs c.sendsPage s.paging args = .ok stmt.sql := by
  have hpage : c.sendsPage = false := by simp [Command.sendsPage, hverb, hquery]
  rw [Command.sqlAs_of_compile hcompile, hpage, if_neg Bool.false_ne_true]
  simp only [statementCourse, hcompile] at h
  split at h
  · cases h
  · cases verb <;> cases h <;> rfl

end Requests

omit [Store σ] in
/-- **The SQL that a command asks a backend to run**, if it asks for no first row: that of a page as
it was prepared, all other as it was compiled. -/
theorem sqlAs_of_request? {stmt : Statement} (hrow : c.rowId = none)
    (hfirst : (Options.resolve c.options).has .first = false)
    (h : (s.course c args).request? = some (.statement stmt)) :
    c.sqlAs c.sendsPage s.paging args = .ok stmt.sql := by
  cases hcompile : c.compile (.resolve c.options) args with
  | error e => exact absurd h (request?_of_compile_error hcompile stmt)
  | ok compiled =>
    rw [course] at h
    split at h
    · exact sqlAs_of_selectCourse ‹_› hrow hfirst hcompile h
    · exact sqlAs_of_queryCourse ‹_› hfirst hcompile h
    · rename_i verb hquery hverb
      rw [producesSql_of_compile hverb hcompile, if_pos rfl] at h
      exact sqlAs_of_statementCourse hverb hquery hcompile h

/-- **A call and the same call without the flag QUERY.**  Neither is decorated, and no row is asked
for, by its id or as the first. -/
structure Previews (call bare : Call) (c : Command) : Prop where
  command : Command.parse call.command = .ok c
  bareCommand : Command.parse bare.command = .ok (c.without .query)
  args : bare.args = call.args
  undecorated : call.decorator = none ∧ bare.decorator = none
  query : (Options.resolve c.options).has .query = true
  first : (Options.resolve c.options).has .first = false
  row : c.rowId = none

variable {bare : Call} {sent : String} {params : Params}

omit [Store σ] in
/-- The command of a preview is narrowed to no row. -/
theorem Previews.tokenize (h : Previews call bare c) (s : Session γ β σ) :
    s.tokenize bare.command = .ok (c.without .query) := by
  have hrow : (c.without .query).rowId = none := h.row
  rw [Session.tokenize, h.bareCommand]
  dsimp only
  rw [Command.scopeRow, hrow]

/-- What the call without the flag sends is the command's SQL, of one page if that was asked for. -/
theorem Previews.sqlAs_of_sent? (h : Previews call bare c) {contact : Contact}
    (hmem : contact ∈ s.contacts bare) (hsent : contact.event.sent? = some (sent, params)) :
    c.sqlAs c.sendsPage s.paging call.args = .ok sent := by
  obtain ⟨id, reading, rfl⟩ := asked_of_sent? hsent
  have hrequest := request?_of_mem_contacts hmem
  rw [request?, h.tokenize s] at hrequest
  have hfirst : (Options.resolve (c.without .query).options).has .first = false := by
    rw [Command.without, Options.has_resolve_dropFlag, h.first, Bool.false_and]
  have hsql := sqlAs_of_request? (c := c.without .query) h.row hfirst hrequest
  rwa [Command.sqlAs_without, Command.sendsPage_without_query, h.args] at hsql

/-- What the call with the flag shows is the command's SQL, of one page if it selects one. -/
theorem Previews.sqlAs_of_shown (h : Previews call bare c) (s : Session γ β σ)
    (hverb : ∀ verb ∈ c.verb, verb.producesSql = true) {shown : String}
    (hshown : (s.exec call).1 = .ok (.sql shown)) :
    c.sqlAs c.showsPage s.paging call.args = .ok shown := by
  have hasks := Command.asksForSql_iff.mpr ⟨hverb, h.query⟩
  rw [exec_of_asksForSql s h.command h.undecorated.1 hasks, Command.scopeRow, h.row] at hshown
  cases hsql : c.sqlAs c.showsPage s.paging call.args with
  | error e =>
    rw [hsql] at hshown
    cases hshown
  | ok sql =>
    rw [hsql] at hshown
    cases hshown
    rfl

/-- **The SQL that was shown is the SQL that is sent**, except for a page of SQL written by hand:
that is sent with the LIMIT of the page, which was not shown. -/
theorem sent_as_shown_iff (s : Session γ β σ) {call bare : Call} {c : Command}
    (h : Previews call bare c) {shown : String} (hshown : (s.exec call).1 = .ok (.sql shown)) :
    ∃ events, (s.exec bare).2.backendEvents = s.backendEvents ++ events ∧
      ∀ event ∈ events, ∀ sent params, event.sent? = some (sent, params) →
        (sent = shown ↔ ¬c.PagedByHand) ∧
          (c.PagedByHand → sent = Statement.appendLimit shown s.paging.window.limit) := by
  refine ⟨_, (contacted_exec s bare).trace, fun event hevent sent params hsent => ?_⟩
  obtain ⟨contact, hmem, rfl⟩ := List.mem_map.mp hevent
  have hrun := h.sqlAs_of_sent? hmem hsent
  have hshow := h.sqlAs_of_shown s (Command.producesSql_of_sqlAs hrun) hshown
  by_cases hhand : c.PagedByHand
  · rw [hhand.showsPage] at hshow
    rw [hhand.sendsPage] at hrun
    obtain ⟨hlimit, hne⟩ := Command.sqlAs_true_of_false hshow hrun
    exact ⟨iff_of_false hne (not_not_intro hhand), fun _ => hlimit⟩
  · rw [Command.sendsPage_of_not_pagedByHand hhand] at hrun
    have hsame : sent = shown := Except.ok.inj (hrun.symm.trans hshow)
    exact ⟨iff_of_true hsame hhand, fun hpaged => absurd hpaged hhand⟩

/-- The second page of a selection is sent as it was shown. -/
theorem sent_as_shown_iff_page :
    let config : ConnectionConfig := { host := "h", database := "d", user := "u", password := "" }
    let s : Session Counting Unit MemoryStore :=
      { gateway := {}, registry := { connections := [{ id := 1, config }] }
        paging := { page := 2 } }
    let call : Call := { command := "users/Query/pagination WHERE a = 1" }
    let bare : Call := { command := "users/pagination WHERE a = 1" }
    let shown := "SELECT * FROM users WHERE a = 1 LIMIT 10, 11"
    (s.exec call).1 = .ok (.sql shown) ∧
      (s.exec bare).2.backendEvents = [.connect 1 "h" "d", .fetch 1 shown .none] ∧
      ∀ event ∈ (s.exec bare).2.backendEvents, ∀ sent params,
        event.sent? = some (sent, params) → sent = shown := by
  intro config s call bare shown
  let c : Command :=
    { table := "users", options := ["Query", "pagination"], clause := "WHERE a = 1" }
  have hpreviews : Previews call bare c := by
    refine ⟨?_, ?_, ?_, ⟨rfl, rfl⟩, ?_, ?_, rfl⟩ <;> decide +kernel
  have hasks : c.AsksForSql := Command.asksForSql_iff.mpr ⟨by simp [c], hpreviews.query⟩
  have hshown : (s.exec call).1 = .ok (.sql shown) :=
    exec_fst_of_sqlAs hpreviews.command rfl hasks (by decide +kernel)
  have hhand : ¬c.PagedByHand := fun h => by simp [Command.PagedByHand, c] at h
  obtain ⟨events, hevents, hsent⟩ := sent_as_shown_iff s hpreviews hshown
  refine ⟨hshown, by decide +kernel, fun event hevent sent params hsql => ?_⟩
  rw [hevents] at hevent
  exact (hsent event hevent sent params hsql).1.mpr hhand

/-- A page of SQL written by hand is sent as another statement than the one that was shown. -/
theorem page_by_hand_sent_not_as_shown :
    let config : ConnectionConfig := { host := "h", database := "d", user := "u", password := "" }
    let s : Session Counting Unit MemoryStore :=
      { gateway := {}, registry := { connections := [{ id := 1, config }] } }
    let call : Call := { command := ":query/query/pagination SELECT a FROM t" }
    let bare : Call := { command := ":query/pagination SELECT a FROM t" }
    (∃ c, Previews call bare c) ∧ (s.exec call).1 = .ok (.sql "SELECT a FROM t") ∧
      (s.exec bare).2.backendEvents
        = [.connect 1 "h" "d", .fetch 1 "SELECT a FROM t LIMIT 0, 11" .none] := by
  intro config s call bare
  let c : Command :=
    { verb := some .query, options := ["query", "pagination"], clause := "SELECT a FROM t" }
  have hpreviews : Previews call bare c := by
    refine ⟨?_, ?_, ?_, ⟨rfl, rfl⟩, ?_, ?_, rfl⟩ <;> decide +kernel
  have hasks : c.AsksForSql :=
    Command.asksForSql_iff.mpr ⟨by simp [c, Verb.producesSql], hpreviews.query⟩
  exact ⟨⟨c, hpreviews⟩, exec_fst_of_sqlAs hpreviews.command rfl hasks (by decide +kernel),
    by decide +kernel⟩

end Session

end SqlShorthand
