import SqlShorthand.Session.Exec

/-!
# Proofs/Session/Course — what a command comes down to

Twenty-five verbs and six flags lead to five courses: a command is settled within the session, or it
makes exactly one request of its connection's backend.  `course` chooses the course without running
anything, and `runCommand_eq_follow` says that running the command is following it — so a property
of commands needs five cases.  `settles_course` then says what a command can settle by itself.
-/

namespace SqlShorthand

/-- **The course of a command.** -/
inductive Course (γ β σ : Type) where
  /-- The session answers by itself. -/
  | settled (result : Except Error Output) (after : Session γ β σ)
  /-- One statement is run and its outcome read; a failure that is held back gives `neutral`. -/
  | run (sql : String) (params : Params) (reading : Reading) (useCache : Bool) (neutral : Output)
      (finish : Session.Outcome → Output)
  /-- One statement is run with the log switched off. -/
  | runUnlogged (stmt : Statement)
  | insertId
  | transact (step : Transaction)

namespace Session

variable {γ β σ : Type}

/-- The course of a statement whose outcome is given as it is. -/
def executeCourse (stmt : Statement) (useCache : Bool) : Course γ β σ :=
  .run stmt.sql stmt.params stmt.reading useCache (.bool false) outputOf

/-- The first row of an outcome. -/
def firstOutput : Outcome → Output
  | .rows rows => .row rows.head?
  | o => outputOf o

/-- The course of a statement whose first row is asked for. -/
def firstRowCourse (stmt : Statement) (reading : Reading) (useCache : Bool) : Course γ β σ :=
  .run (firstRowSql stmt.sql) stmt.params reading useCache (.bool false) firstOutput

/-- One page of an outcome. -/
def pageOutput (window : Paging.Window) (o : Outcome) : Output :=
  .paged (window.finalize (rowsOf o)).2 (window.finalize (rowsOf o)).1

/-- The course of a statement of which one page is asked for. -/
def pageCourse (sql : String) (window : Paging.Window) (params : Params) (useCache : Bool) :
    Course γ β σ :=
  .run sql params .rows useCache (.bool false) (pageOutput window)

/-- The course of a selection that describes its record. -/
def modelCourse (s : Session γ β σ) (c : Command) (stmt : Statement) : Course γ β σ :=
  .settled (s.selectModel c stmt).1 (s.selectModel c stmt).2

/-- The course of a selection. -/
def selectCourse (s : Session γ β σ) (c : Command) (options : Options) (args : List Params) :
    Course γ β σ :=
  match c.compile options args with
  | .error e => .settled (.error e) s
  | .ok stmt =>
    if options.has .pagination then
      match s.paging.prepare stmt.sql with
      | .error e => .settled (.error e) s
      | .ok (sql, window) =>
        if options.has .query then .settled (.ok (.sql sql)) s
        else if options.has .model && c.rowId.isNone then s.modelCourse c stmt
        else pageCourse sql window stmt.params (options.has .cache)
    else if options.has .query then .settled (.ok (.sql stmt.sql)) s
    else if options.has .model && c.rowId.isNone then s.modelCourse c stmt
    else if c.rowId.isSome || options.has .first then
      firstRowCourse stmt .rows (options.has .cache)
    else executeCourse stmt (options.has .cache)

/-- The course of SQL written by hand. -/
def queryCourse (s : Session γ β σ) (c : Command) (options : Options) (args : List Params) :
    Course γ β σ :=
  match c.compile options args with
  | .error e => .settled (.error e) s
  | .ok stmt =>
    if options.has .query then .settled (.ok (.sql stmt.sql)) s
    else if options.has .pagination then
      if !Statement.isSelectSql stmt.sql then .settled (.error .pagingNotSelect) s
      else
        match s.paging.prepare stmt.sql with
        | .error e => .settled (.error e) s
        | .ok (sql, window) => pageCourse sql window stmt.params (options.has .cache)
    else if options.has .first then firstRowCourse stmt .byKeyword (options.has .cache)
    else executeCourse stmt (options.has .cache)

/-- The course of a statement that a verb reads in its own way; it never uses the cache. -/
def verbCourse (verb : Verb) (stmt : Statement) : Course γ β σ :=
  let uncached (neutral : Output) (finish : Outcome → Output) : Course γ β σ :=
    .run stmt.sql stmt.params stmt.reading false neutral finish
  match verb with
  | .logHandler => .runUnlogged stmt
  | .count => uncached (.count 0) fun o => .count (firstInt "count" o)
  | .exists => uncached (.bool false) fun o => .bool (firstInt "is_set" o > 0)
  | .columns | .tables => uncached (.bool false) fun o => .names ((rowsOf o).filterMap firstColumn?)
  | _ => executeCourse stmt false

/-- The course of a verb that compiles to one statement. -/
def statementCourse (s : Session γ β σ) (verb : Verb) (c : Command) (options : Options)
    (args : List Params) : Course γ β σ :=
  match c.compile options args with
  | .error e => .settled (.error e) s
  | .ok stmt => if options.has .query then .settled (.ok (.sql stmt.sql)) s else verbCourse verb stmt

variable [Gateway γ β]

/-- The course of a verb without SQL. -/
def controlCourse (s : Session γ β σ) (verb : Verb) (c : Command) (args : List Params) :
    Course γ β σ :=
  match verb with
  | .id => .insertId
  | .transaction => .transact .start
  | .commit => .transact .commit
  | .rollback => .transact .rollback
  | verb => .settled (s.control verb c args).1 (s.control verb c args).2

/-- The course of a command that was read. -/
def course (s : Session γ β σ) (c : Command) (args : List Params) : Course γ β σ :=
  match c.verb with
  | none => s.selectCourse c (Options.resolve c.options) args
  | some .query => s.queryCourse c (Options.resolve c.options) args
  | some verb =>
    if verb.producesSql then s.statementCourse verb c (Options.resolve c.options) args
    else s.controlCourse verb c args

variable [Store σ]

/-- Follows a course on a connection. -/
def follow (s : Session γ β σ) (id : ConnectionId) :
    Course γ β σ → Except Error Output × Session γ β σ
  | .settled result after => (result, after)
  | .run sql params reading useCache neutral finish =>
    orElse neutral finish (s.run id sql params reading useCache)
  | .runUnlogged stmt => s.runUnlogged id stmt
  | .insertId => s.insertId id
  | .transact step => s.transaction id step

/-! ## Running a command is following its course -/

theorem select_eq_follow (s : Session γ β σ) (c : Command) (options : Options)
    (args : List Params) :
    s.select c options args = s.follow c.connection (s.selectCourse c options args) := by
  rw [select, selectCourse]
  cases c.compile options args with
  | error e => rfl
  | ok stmt =>
    dsimp only
    split
    · cases s.paging.prepare stmt.sql with
      | error e => rfl
      | ok prepared =>
        dsimp only
        split
        · rfl
        · split <;> rfl
    · split
      · rfl
      · split
        · rfl
        · rw [selectPlain]
          split <;> rfl

theorem manualQuery_eq_follow (s : Session γ β σ) (c : Command) (options : Options)
    (args : List Params) :
    s.manualQuery c options args = s.follow c.connection (s.queryCourse c options args) := by
  rw [manualQuery, queryCourse]
  cases c.compile options args with
  | error e => rfl
  | ok stmt =>
    dsimp only
    split
    · rfl
    · split
      · split
        · rfl
        · cases s.paging.prepare stmt.sql <;> rfl
      · split <;> rfl

theorem statement_eq_follow (s : Session γ β σ) (verb : Verb) (c : Command) (options : Options)
    (args : List Params) :
    s.statement verb c options args
      = s.follow c.connection (s.statementCourse verb c options args) := by
  rw [statement, statementCourse]
  cases c.compile options args with
  | error e => rfl
  | ok stmt =>
    dsimp only
    split
    · rfl
    · cases verb <;> rfl

theorem control_eq_follow (s : Session γ β σ) (verb : Verb) (c : Command) (args : List Params) :
    s.control verb c args = s.follow c.connection (s.controlCourse verb c args) := by
  cases verb <;> rfl

/-- **Running a command is following its course.** -/
theorem runCommand_eq_follow (s : Session γ β σ) (c : Command) (args : List Params) :
    s.runCommand c args = s.follow c.connection (s.course c args) := by
  rw [runCommand, course]
  rcases h : c.verb with _ | verb
  · exact select_eq_follow s c _ args
  · by_cases hquery : verb = .query
    · subst hquery
      exact manualQuery_eq_follow s c _ args
    · simp only
      split
      · exact statement_eq_follow s verb c _ args
      · exact control_eq_follow s verb c args

end Session

/-! ## What a command settles by itself -/

namespace Statement

variable {e : Error} {options : Options} {args : List Params}

theorem errorClass_of_recordOf {verb : String} (h : recordOf args verb = .error e) :
    e.errorClass = .grammar := by
  rw [recordOf] at h
  split at h
  · split at h <;> cases h
    rfl
  · cases h
    rfl

theorem errorClass_of_insert {keyword table : String}
    (h : Statement.insert keyword table options args = .error e) : e.errorClass = .grammar := by
  rw [Statement.insert] at h
  split at h
  · cases h
    exact errorClass_of_recordOf ‹_›
  · cases h

theorem errorClass_of_updateParams {bound : Record} {extra : Option Params}
    (h : updateParams bound extra = .error e) : e.errorClass = .grammar := by
  rw [updateParams.eq_def] at h
  split at h
  · cases h
  · cases h
  · cases h
  · split at h <;> cases h
    rfl

theorem errorClass_of_update {c : Command} (h : update c options args = .error e) :
    e.errorClass = .grammar := by
  rw [update] at h
  split at h
  · cases h
    exact errorClass_of_recordOf ‹_›
  · split at h
    · cases h
      exact errorClass_of_updateParams ‹_›
    · cases h

end Statement

/-- A command that does not compile breaks a rule of the grammar. -/
theorem Command.errorClass_of_compile {c : Command} {options : Options} {args : List Params}
    {e : Error} (h : c.compile options args = .error e) : e.errorClass = .grammar := by
  rw [compile] at h
  split at h
  · cases h
    rfl
  · rw [compileBody] at h
    split at h
    case h_2 | h_3 | h_4 => exact Statement.errorClass_of_insert h
    case h_5 => exact Statement.errorClass_of_update h
    case h_15 =>
      split at h <;> cases h
      rfl
    case h_16 =>
      cases h
      rfl
    all_goals cases h

/-- A text that denotes no command breaks a rule of the grammar. -/
theorem Command.errorClass_of_parse {text : String} {e : Error}
    (h : Command.parse text = .error e) : e.errorClass = .grammar := by
  rw [parse] at h
  split at h
  · rw [readParts] at h
    dsimp only at h
    split at h
    · split at h
      · cases h
      · rename_i hverb
        cases h
        rw [Verb.ofName] at hverb
        split at hverb <;> cases hverb
        rfl
    · cases h
    · cases h
  · rename_i hconnection
    cases h
    rw [readConnection] at hconnection
    split at hconnection
    · dsimp only at hconnection
      split at hconnection <;> cases hconnection
      rfl
    · split at hconnection <;> cases hconnection
      rfl

namespace Session

variable {γ β σ : Type}

/-- **What a command can do without the backend**: it is refused, finds no connection, tells
something, or changes one setting of the session. -/
inductive Settles (s : Session γ β σ) (c : Command) :
    Except Error Output → Session γ β σ → Prop where
  | refused (e : Error) (h : e.errorClass = .grammar ∨ e.errorClass = .settings) :
      Settles s c (.error e) s
  | unknown (h : s.registry.find? c.connection = none) :
      Settles s c (.error (.unknownConnection c.connection)) s
  | told (o : Output) : Settles s c (.ok o) s
  | keys (o : Output) (keys : KeyMap) (hverb : c.verb = some .key) (conn : Connection β)
      (h : s.registry.find? c.connection = some conn) :
      Settles s c (.ok o)
        { s with registry := s.registry.modify c.connection fun conn => { conn with keys } }
  | expiry (e : Expiry) (cache : Cache σ) (hverb : c.verb = some .cache) (h : s.cache = some cache) :
      Settles s c (.ok .done) { s with cache := some (cache.setExpire e) }
  | paging (p : Paging) (hverb : c.verb = some .pagination) :
      Settles s c (.ok (.paging p)) { s with paging := p }

theorem settles_tell (s : Session γ β σ) (c : Command) (f : Connection β → Output) :
    Settles s c (s.tell c.connection f).1 (s.tell c.connection f).2 := by
  rw [tell, Registry.get]
  cases h : s.registry.find? c.connection with
  | none => exact .unknown h
  | some conn => exact .told _

theorem settles_selectModel (s : Session γ β σ) (c : Command) (stmt : Statement) :
    Settles s c (s.selectModel c stmt).1 (s.selectModel c stmt).2 := by
  rw [selectModel]
  split
  · exact .refused _ (.inl rfl)
  · rw [Registry.get]
    cases h : s.registry.find? c.connection with
    | none => exact .unknown h
    | some conn => exact .told _

theorem settles_keyCommand (s : Session γ β σ) {c : Command} (hverb : c.verb = some .key)
    (args : List Params) : Settles s c (s.keyCommand c args).1 (s.keyCommand c args).2 := by
  rw [keyCommand]
  split
  · exact .unknown ‹_›
  · rename_i conn h
    dsimp only
    split
    · exact .keys _ _ hverb conn h
    · exact .keys _ _ hverb conn h

theorem settles_cacheCommand (s : Session γ β σ) {c : Command} (hverb : c.verb = some .cache) :
    Settles s c (s.cacheCommand c).1 (s.cacheCommand c).2 := by
  rw [cacheCommand]
  split
  · exact .told _
  · split
    · rename_i h
      refine .refused _ (.inl ?_)
      rw [Expiry.parse] at h
      split at h <;> cases h
      rfl
    · exact .refused _ (.inr rfl)
    · exact .expiry _ _ hverb ‹_›

theorem settles_pagingCommand (s : Session γ β σ) {c : Command}
    (hverb : c.verb = some .pagination) (args : List Params) :
    Settles s c (s.pagingCommand args).1 (s.pagingCommand args).2 := .paging _ hverb

/-- A verb without SQL and without a backend. -/
theorem settles_control [Gateway γ β] (s : Session γ β σ) {verb : Verb} {c : Command}
    (hverb : c.verb = some verb) (args : List Params) {r : Except Error Output}
    {after : Session γ β σ} (h : s.controlCourse verb c args = .settled r after) :
    Settles s c r after := by
  cases verb
  case key => cases h; exact settles_keyCommand s hverb args
  case cache => cases h; exact settles_cacheCommand s hverb
  case pagination => cases h; exact settles_pagingCommand s hverb args
  case id | transaction | commit | rollback => cases h
  case error | errorLast | log => cases h; exact settles_tell s c _
  case debug => cases h; exact .told _
  all_goals cases h; exact .refused _ (.inl rfl)

theorem settles_select {s : Session γ β σ} {c : Command} {options : Options} {args : List Params}
    {r : Except Error Output} {after : Session γ β σ}
    (h : s.selectCourse c options args = .settled r after) : Settles s c r after := by
  rw [selectCourse] at h
  split at h
  · cases h
    exact .refused _ (.inl (Command.errorClass_of_compile ‹_›))
  · split at h
    · split at h
      · rename_i hprepare
        cases h
        rw [Paging.prepare] at hprepare
        split at hprepare <;> cases hprepare
        exact .refused _ (.inl rfl)
      · split at h
        · cases h
          exact .told _
        · split at h <;> cases h
          exact settles_selectModel s c _
    · split at h
      · cases h
        exact .told _
      · split at h
        · cases h
          exact settles_selectModel s c _
        · split at h <;> cases h

theorem settles_query {s : Session γ β σ} {c : Command} {options : Options} {args : List Params}
    {r : Except Error Output} {after : Session γ β σ}
    (h : s.queryCourse c options args = .settled r after) : Settles s c r after := by
  rw [queryCourse] at h
  split at h
  · cases h
    exact .refused _ (.inl (Command.errorClass_of_compile ‹_›))
  · split at h
    · cases h
      exact .told _
    · split at h
      · split at h
        · cases h
          exact .refused _ (.inl rfl)
        · split at h
          · rename_i hprepare
            cases h
            rw [Paging.prepare] at hprepare
            split at hprepare <;> cases hprepare
            exact .refused _ (.inl rfl)
          · cases h
      · split at h <;> cases h

theorem settles_statement {s : Session γ β σ} {verb : Verb} {c : Command} {options : Options}
    {args : List Params} {r : Except Error Output} {after : Session γ β σ}
    (h : s.statementCourse verb c options args = .settled r after) : Settles s c r after := by
  rw [statementCourse] at h
  split at h
  · cases h
    exact .refused _ (.inl (Command.errorClass_of_compile ‹_›))
  · split at h
    · cases h
      exact .told _
    · cases verb <;> cases h

/-- **A settled command did one of these few things.** -/
theorem settles_course [Gateway γ β] {s : Session γ β σ} {c : Command} {args : List Params}
    {r : Except Error Output} {after : Session γ β σ} (h : s.course c args = .settled r after) :
    Settles s c r after := by
  rw [course] at h
  split at h
  · exact settles_select h
  · exact settles_query h
  · split at h
    · exact settles_statement h
    · exact settles_control s ‹_› args h

end Session

end SqlShorthand
