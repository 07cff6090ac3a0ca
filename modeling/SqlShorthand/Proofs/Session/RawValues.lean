import SqlShorthand.Proofs.Record
import SqlShorthand.Proofs.Session.Sending

/-!
# Proofs/Session/RawValues — raw SQL is never bound

A raw value is SQL: three verbs write it into their statement, and nobody binds it.  Among the
values of a compiled statement it is refused, and refused first: before the cache is asked and before
the link is opened, on every way from a command to a backend.

* `isRaw_of_bind` — binding gives no raw value; `contacts_of_raw` — a statement with one is not
  sent.
* `IgnoresCache` — a run that does the same whatever the cache is, and leaves it as it is: it
  neither looked into it nor wrote to it.  `ignoresCache_exec` says so of a call with a raw value.
* `RawAnswer` — what the caller, and the connection, hear of it.
-/

namespace SqlShorthand

/-! ## The first raw value -/

/-- **The first raw value** of a statement's values, by its label: its name, or its position counted
from zero. -/
inductive Params.FirstRaw : Params → String → Prop where
  | named (before after : List (String × Value)) (name sql : String)
      (hbefore : ∀ f ∈ before, f.2.isRaw = false) :
      FirstRaw (.named ⟨before ++ (name, .raw sql) :: after⟩) name
  | positional (before after : List Value) (sql : String)
      (hbefore : ∀ v ∈ before, v.isRaw = false) :
      FirstRaw (.positional (before ++ .raw sql :: after)) (toString before.length)

namespace Params

variable {p : Params} {label : String} {v : Value}

theorem exists_raw_of_isRaw (h : v.isRaw = true) : ∃ sql, v = .raw sql := by
  cases v with
  | raw sql => exact ⟨sql, rfl⟩
  | _ => cases h

/-- A raw value among others is preceded by the first one, or is the first one. -/
theorem exists_firstRaw (hv : v ∈ p.values) (hraw : v.isRaw = true) :
    ∃ label, p.FirstRaw label := by
  cases p with
  | none => cases hv
  | named r =>
    obtain ⟨f, hf, rfl⟩ := List.mem_map.mp hv
    obtain ⟨g, hg⟩ := Option.isSome_iff_exists.mp
      (List.find?_isSome (p := fun f : String × Value => f.2.isRaw).mpr ⟨f, hf, hraw⟩)
    obtain ⟨hgraw, before, after, hfields, hbefore⟩ := List.find?_eq_some_iff_append.mp hg
    obtain ⟨name, w⟩ := g
    obtain ⟨sql, rfl⟩ := exists_raw_of_isRaw hgraw
    obtain rfl : r = ⟨before ++ (name, .raw sql) :: after⟩ := congrArg Record.mk hfields
    exact ⟨name, .named before after name sql fun f hf => by simpa using hbefore f hf⟩
  | positional vs =>
    obtain ⟨w, hw⟩ := Option.isSome_iff_exists.mp
      (List.find?_isSome (p := Value.isRaw).mpr ⟨v, hv, hraw⟩)
    obtain ⟨hwraw, before, after, rfl, hbefore⟩ := List.find?_eq_some_iff_append.mp hw
    obtain ⟨sql, rfl⟩ := exists_raw_of_isRaw hwraw
    exact ⟨_, .positional before after sql fun w hw => by simpa using hbefore w hw⟩

/-- **The first raw value is the one that is refused.** -/
theorem FirstRaw.ensureBindable (h : p.FirstRaw label) :
    p.ensureBindable = .error (.rawParam label) := by
  have hfind : ∃ sql, p.labelled.find? (fun f => f.2.isRaw) = some (label, .raw sql) := by
    cases h with
    | named before after name sql hbefore =>
      refine ⟨sql, List.find?_eq_some_iff_append.mpr ⟨rfl, before, after, rfl, fun f hf => ?_⟩⟩
      simpa using hbefore f hf
    | positional before after sql hbefore =>
      refine ⟨sql, List.find?_eq_some_iff_append.mpr
        ⟨rfl, before.zipIdx.map fun vi => (toString vi.2, vi.1),
          (after.zipIdx (before.length + 1)).map fun vi => (toString vi.2, vi.1), ?_,
          fun f hf => ?_⟩⟩
      · simp [labelled, List.zipIdx_append]
      · obtain ⟨⟨v, i⟩, hv, rfl⟩ := List.mem_map.mp hf
        simpa using hbefore v (List.fst_mem_of_mem_zipIdx hv)
  obtain ⟨sql, hfind⟩ := hfind
  rw [Params.ensureBindable]
  split
  · rename_i label' v hfound
    cases hfound.symm.trans hfind
    rfl
  · rename_i hnone
    cases hnone.symm.trans hfind

theorem isRaw_of_ensureBindable (h : p.ensureBindable = .ok ()) (hv : v ∈ p.values) :
    v.isRaw = false := by
  refine Bool.eq_false_iff.mpr fun hraw => ?_
  obtain ⟨label, hfirst⟩ := exists_firstRaw hv hraw
  rw [hfirst.ensureBindable] at h
  cases h

end Params

/-! ## What is bound -/

namespace Placeholder

/-- What fills the placeholders is among the named values. -/
theorem mem_values_of_fill {r : Record} {ps : List Piece} {out : List Char} {values : List Value}
    (h : fill r ps = .ok (out, values)) {v : Value} (hv : v ∈ values) : v ∈ r.values := by
  induction ps generalizing out values with
  | nil =>
    cases h
    cases hv
  | cons p ps ih =>
    cases p with
    | char c =>
      rw [fill] at h
      split at h
      · rename_i hfill
        cases h
        exact ih hfill hv
      · cases h
    | named name =>
      rw [fill] at h
      split at h
      · cases h
      · rename_i w hget
        split at h
        · rename_i hfill
          cases h
          rcases List.mem_cons.mp hv with rfl | hv
          · exact List.mem_map_of_mem (Record.mem_fields_of_get? hget)
          · exact ih hfill hv
        · cases h

/-- **Binding gives no raw value.** -/
theorem isRaw_of_bind {sql out : String} {params : Params} {values : List Value}
    (h : bind sql params = .ok (out, values)) {v : Value} (hv : v ∈ values) : v.isRaw = false := by
  unfold Placeholder.bind at h
  split at h
  · cases h
  · rename_i hbindable
    refine Params.isRaw_of_ensureBindable hbindable ?_
    split at h
    · cases h
      cases hv
    · cases h
      exact hv
    · split at h
      · rename_i hfill
        cases h
        exact mem_values_of_fill hfill hv
      · cases h

end Placeholder

namespace Session

variable {γ β σ : Type}

/-! ## A run that ignores the cache -/

/-- **A run that ignores the cache**: with any other cache it gives the same and leaves the same
behind, that cache as it was. -/
def IgnoresCache {α : Type} (run : Session γ β σ → α × Session γ β σ) (s : Session γ β σ) : Prop :=
  ∀ cache, run { s with cache } = ((run s).1, { (run s).2 with cache })

theorem IgnoresCache.cache {α : Type} {run : Session γ β σ → α × Session γ β σ}
    {s : Session γ β σ} (h : IgnoresCache run s) : (run s).2.cache = s.cache :=
  congrArg (·.2.cache) (h s.cache)

variable {s : Session γ β σ} {id : ConnectionId} {sql : String} {params : Params}
  {reading : Reading} {useCache : Bool} {e : Error} {c : Command} {args : List Params}
  {stmt : Statement} {call : Call}

theorem pushLog_withCache (s : Session γ β σ) (id : ConnectionId) (line : String)
    (cache : Option (Cache σ)) :
    { s with cache }.pushLog id line = { s.pushLog id line with cache } := by
  rw [pushLog, pushLog]
  dsimp only
  split <;> rfl

theorem surface_withCache {α : Type} (r : Except Error α) (t : Session γ β σ)
    (cache : Option (Cache σ)) :
    surface id (r, { t with cache })
      = ((surface id (r, t)).1, { (surface id (r, t)).2 with cache }) := by
  cases r with
  | ok a => rfl
  | error e =>
    rw [surface, surface]
    dsimp only
    split
    · rfl
    · split
      · rfl
      · split <;> rfl

theorem orElse_withCache {α : Type} (neutral : Output) (f : α → Output)
    (r : Except Error (Option α)) (t : Session γ β σ) (cache : Option (Cache σ)) :
    orElse neutral f (r, { t with cache })
      = ((orElse neutral f (r, t)).1, { (orElse neutral f (r, t)).2 with cache }) := by
  rcases r with e | _ | a <;> rfl

theorem setLogging_withCache (s : Session γ β σ) (on : Bool) (cache : Option (Cache σ)) :
    { s with cache }.setLogging id on = { s.setLogging id on with cache } := rfl

variable [Gateway γ β] [Store σ]

/-- A raw value is refused once the SQL is logged, and before anything else. -/
theorem dispatch_of_raw (hraw : params.ensureBindable = .error e) :
    s.dispatch id sql params reading useCache
      = if s.registry.contains id then (.error e, s.pushLog id (queryLine sql))
        else (.error (.unknownConnection id), s) := by
  have hsome : params.isEmpty = false := by
    refine Bool.eq_false_iff.mpr fun hempty => ?_
    rw [ensureBindable_of_isEmpty hempty] at hraw
    cases hraw
  rw [dispatch, hraw, hsome]
  cases s.registry.contains id <;> rfl

theorem ignoresCache_run (s : Session γ β σ) (id : ConnectionId) (sql : String)
    (hraw : params.ensureBindable = .error e) (reading : Reading) (useCache : Bool) :
    IgnoresCache (fun s : Session γ β σ => s.run id sql params reading useCache) s := by
  intro cache
  dsimp only
  rw [run, run, dispatch_of_raw hraw, dispatch_of_raw hraw, pushLog_withCache]
  dsimp only
  split <;> exact surface_withCache _ _ cache

theorem ignoresCache_runUnlogged (s : Session γ β σ) (id : ConnectionId)
    (hraw : stmt.params.ensureBindable = .error e) :
    IgnoresCache (fun s : Session γ β σ => s.runUnlogged id stmt) s := by
  intro cache
  have hrun := ignoresCache_run (s.setLogging id false) id stmt.sql hraw stmt.reading false cache
  dsimp only at hrun ⊢
  rw [runUnlogged, runUnlogged]
  dsimp only
  split
  · rfl
  · rw [setLogging_withCache, runUncached, runUncached, hrun, orElse_withCache]
    rfl

/-- The course, with another cache in what it leaves behind. -/
def withCache (cache : Option (Cache σ)) : Course γ β σ → Course γ β σ
  | .settled r after => .settled r { after with cache }
  | course => course

omit [Gateway γ β] [Store σ] in
theorem modelCourse_withCache (s : Session γ β σ) (c : Command) (stmt : Statement)
    (cache : Option (Cache σ)) :
    { s with cache }.modelCourse c stmt = withCache cache (s.modelCourse c stmt) := by
  rw [modelCourse, modelCourse, selectModel, selectModel]
  split
  · rfl
  · dsimp only
    cases s.registry.get c.connection <;> rfl

omit [Store σ] in
/-- The course of a statement does not hang on the cache. -/
theorem course_withCache (h : c.compile (.resolve c.options) args = .ok stmt)
    (cache : Option (Cache σ)) :
    { s with cache }.course c args = withCache cache (s.course c args) := by
  rw [course, course]
  split
  · rw [selectCourse, selectCourse, h]
    dsimp only
    split
    · cases s.paging.prepare stmt.sql with
      | error e => rfl
      | ok prepared =>
        dsimp only
        split
        · rfl
        · split
          · exact modelCourse_withCache s c stmt cache
          · rfl
    · split
      · rfl
      · split
        · exact modelCourse_withCache s c stmt cache
        · split <;> rfl
  · rw [queryCourse, queryCourse, h]
    dsimp only
    split
    · rfl
    · split
      · split
        · rfl
        · cases s.paging.prepare stmt.sql <;> rfl
      · split <;> rfl
  · rename_i verb _ hverb
    rw [producesSql_of_compile hverb h, if_pos rfl, statementCourse, statementCourse, h]
    dsimp only
    split
    · rfl
    · cases verb <;> rfl

theorem ignoresCache_runCommand (h : c.compile (.resolve c.options) args = .ok stmt)
    (hraw : stmt.params.ensureBindable = .error e) :
    IgnoresCache (fun s : Session γ β σ => s.runCommand c args) s := by
  intro cache
  dsimp only
  rw [runCommand_eq_follow, runCommand_eq_follow, course_withCache h]
  have hfate := fate_course (s := s) h
  generalize s.course c args = course at hfate
  cases hfate with
  | shown | described | refused | unknown => rfl
  | @sent sql _ reading useCache neutral finish =>
    have hrun := ignoresCache_run s c.connection sql hraw reading useCache cache
    dsimp only at hrun
    dsimp only [withCache, follow]
    rw [hrun, orElse_withCache]
  | unlogged => exact ignoresCache_runUnlogged s c.connection hraw cache

/-! ## What a call gives -/

/-- The description of a record is not decorated. -/
theorem presented_model (call : Call) (verb : Option Verb) (m : ModelQuery) :
    presented call verb (.ok (.model m)) = .ok (.model m) := by
  rw [presented]
  cases call.decorator with
  | none => rfl
  | some d =>
    rcases verb with _ | verb
    · rfl
    · cases verb
      case query =>
        change Except.ok (if Template.isTest d.template then (Output.model m) else .model m) = _
        rw [ite_self]
      all_goals rfl

/-- **A call with a raw value ignores the cache**: it neither looks into it nor writes to it. -/
theorem ignoresCache_exec (h : Compiles s call c stmt)
    (hraw : stmt.params.ensureBindable = .error e) :
    IgnoresCache (fun s : Session γ β σ => s.exec call) s := by
  intro cache
  have hrun := ignoresCache_runCommand (s := s) h.statement hraw cache
  have hcommand : { s with cache }.tokenize call.command = .ok c := h.command
  dsimp only at hrun ⊢
  rw [exec_eq_presented h.command, exec_eq_presented hcommand, hrun]

/-- **A statement with a raw value reaches no backend**, and no link is opened for it. -/
theorem contacts_of_raw (h : Compiles s call c stmt)
    (hraw : stmt.params.ensureBindable = .error e) : s.contacts call = [] := by
  rw [contacts, h.command]
  dsimp only
  split
  · rfl
  · have hfate := fate_course (s := s) h.statement
    generalize s.course c call.args = course at hfate
    cases hfate with
    | shown | described | refused | unknown => rfl
    | sent | unlogged => simp only [courseContacts, statementContacts, hraw]

/-- **What a call with a raw value gives**, where `label` names the value. -/
inductive RawAnswer (s : Session γ β σ) (call : Call) (c : Command) (label : String) : Prop where
  /-- The SQL, which was only to be shown; the call may have it decorated. -/
  | shown (sql : String) (h : s.exec call = (presented call c.verb (.ok (.sql sql)), s))
  /-- The description of a record. -/
  | described (m : ModelQuery) (h : s.exec call = (.ok (.model m), s))
  | refused (e : Error) (hclass : e.errorClass = .grammar) (h : s.exec call = (.error e, s))
  | unknown (h : s.registry.find? c.connection = none)
  /-- The value is refused, and the connection's policy for failures is applied to that. -/
  | rejected (conn : Connection β) (hconn : s.registry.find? c.connection = some conn)
      (hnoted : Noted c.connection s (s.exec call).2 (Error.rawParam label).message
        (conn.config.surfaceErrors && conn.config.errorHandler))
      (hreturned : errorOf? (s.exec call).1
        = if conn.config.surfaceErrors && !conn.config.errorHandler then some (.rawParam label)
          else none)

/-- A raw value that is refused is noted on its connection, as every failure is. -/
theorem rawAnswer_of_failure (h : Compiles s call c stmt) {label : String}
    (hfailure : ∀ conn, s.courseFailure? conn (s.course c call.args) = some (.rawParam label)) :
    RawAnswer s call c label := by
  cases hconn : s.registry.find? c.connection with
  | none => exact .unknown hconn
  | some conn =>
    obtain ⟨hafter, herror⟩ := exec_of_tokenize s h.command
    obtain ⟨hnoted, hreturned⟩ :=
      (policed_runCommand s c call.args hconn).noted _ (hfailure conn) rfl
    rw [← hafter] at hnoted
    rw [← herror] at hreturned
    exact .rejected conn hconn hnoted hreturned

theorem rawAnswer_exec (h : Compiles s call c stmt) {label : String}
    (hfirst : stmt.params.FirstRaw label) : RawAnswer s call c label := by
  have hraw := hfirst.ensureBindable
  have hexec := exec_eq_presented (s := s) h.command
  have hfailure :
      (∀ conn, s.courseFailure? conn (s.course c call.args) = some (.rawParam label)) →
        RawAnswer s call c label := rawAnswer_of_failure h
  rw [runCommand_eq_follow] at hexec
  have hfate := fate_course (s := s) h.statement
  generalize s.course c call.args = course at hfate hexec hfailure
  cases hfate with
  | shown sql => exact .shown sql hexec
  | described m =>
    rw [follow, presented_model] at hexec
    exact .described m hexec
  | refused e hclass => exact .refused e hclass hexec
  | unknown hnone => exact .unknown hnone
  | sent | unlogged =>
    refine hfailure fun conn => ?_
    simp only [courseFailure?, statementFailure?, hraw]

/-- **Raw SQL is never bound.**  Whatever reaches a backend has no raw value, and gives none when
its placeholders are filled.  And where a command compiles to a statement with a raw value, no
backend is asked and no link opened, the cache is neither looked into nor written to, and the first
raw value is refused by its label — unless the statement was not to be sent, or was refused
before. -/
theorem raw_values_never_bound (s : Session γ β σ) (call : Call) :
    (∃ sent, (s.exec call).2.backendEvents = s.backendEvents ++ sent ∧
      ∀ event ∈ sent, ∀ sql params, event.sent? = some (sql, params) →
        (∀ v ∈ params.values, v.isRaw = false) ∧
          ∀ out values, Placeholder.bind sql params = .ok (out, values) →
            ∀ v ∈ values, v.isRaw = false) ∧
    ∀ c stmt v, Compiles s call c stmt → v ∈ stmt.params.values → v.isRaw = true →
      (s.exec call).2.backendEvents = s.backendEvents ∧
        IgnoresCache (fun s : Session γ β σ => s.exec call) s ∧
        ∃ label, stmt.params.FirstRaw label ∧ RawAnswer s call c label := by
  have hcontacted := (contacted_exec s call).trace
  refine ⟨⟨_, hcontacted, fun event hevent sql params hsent => ?_⟩, fun c stmt v h hv hraw => ?_⟩
  · obtain ⟨contact, hmem, rfl⟩ := List.mem_map.mp hevent
    obtain ⟨c, stmt, h, rfl, -⟩ := compiles_of_sent? hmem hsent
    refine ⟨fun v hv => Params.isRaw_of_ensureBindable ?_ hv,
      fun out values hbind v hv => Placeholder.isRaw_of_bind hbind hv⟩
    cases hbindable : stmt.params.ensureBindable with
    | ok u => rfl
    | error e =>
      rw [contacts_of_raw h hbindable] at hmem
      cases hmem
  · obtain ⟨label, hfirst⟩ := Params.exists_firstRaw hv hraw
    rw [contacts_of_raw h hfirst.ensureBindable, List.map_nil, List.append_nil] at hcontacted
    exact ⟨hcontacted, ignoresCache_exec h hfirst.ensureBindable, label, hfirst,
      rawAnswer_exec h hfirst⟩

/-- A raw value after another one, with the flag for the cache: it is refused by its name, though
there is no cache to ask. -/
theorem raw_values_never_bound_second :
    let config : ConnectionConfig := { host := "h", database := "d", user := "u", password := "" }
    let s : Session Counting Unit MemoryStore :=
      { gateway := {}, registry := { connections := [{ id := 1, config }] } }
    let call : Call :=
      { command := ":query/cache SELECT :a, :b"
        args := [.named ⟨[("a", .int 1), ("b", .raw "NOW()")]⟩] }
    (s.exec call).2.backendEvents = [] ∧ (s.exec call).2.cache = none ∧
      errorOf? (s.exec call).1 = some (.rawParam "b") := by
  intro config s call
  have h : Compiles s call
      { verb := some .query, options := ["cache"], clause := "SELECT :a, :b" }
      ⟨"SELECT :a, :b", .named ⟨[("a", .int 1), ("b", .raw "NOW()")]⟩, .byKeyword⟩ := by
    constructor <;> decide +kernel
  obtain ⟨hevents, hcache, -⟩ := (raw_values_never_bound s call).2 _ _ (.raw "NOW()") h
    (by simp [Params.values, Record.values]) rfl
  exact ⟨hevents, hcache.cache, by decide +kernel⟩

/-- SQL that is only shown may be shown through a template; then what comes back is neither that SQL
nor an error, though a value is raw. -/
theorem shown_sql_is_decorated :
    let config : ConnectionConfig := { host := "h", database := "d", user := "u", password := "" }
    let s : Session Counting Unit MemoryStore :=
      { gateway := {}, registry := { connections := [{ id := 1, config }] } }
    let call : Call :=
      { command := ":query/query SELECT :a", args := [.named ⟨[("a", .raw "NOW()")]⟩]
        decorator := some { template := "run: \x7b$\x7d" } }
    (∃ c, Compiles s call c ⟨"SELECT :a", .named ⟨[("a", .raw "NOW()")]⟩, .byKeyword⟩) ∧
      (s.exec call).1 = .ok (.text "run: SELECT :a") := by
  intro config s call
  let c : Command := { verb := some .query, options := ["query"], clause := "SELECT :a" }
  have h : Compiles s call c ⟨"SELECT :a", .named ⟨[("a", .raw "NOW()")]⟩, .byKeyword⟩ := by
    constructor <;> decide +kernel
  have hshow : (Options.resolve c.options).has .query = true := by decide +kernel
  have hsql : (s.runCommand c call.args).1 = .ok (.sql "SELECT :a") := by
    change (s.manualQuery c (.resolve c.options) call.args).1 = _
    rw [manualQuery, h.statement]
    dsimp only
    rw [if_pos hshow]
  have htest : Template.isTest "run: \x7b$\x7d" = false := by decide +kernel
  have htext : Template.renderScalar "run: \x7b$\x7d" [] (.str "SELECT :a") = "run: SELECT :a" := by
    decide +kernel
  refine ⟨⟨c, h⟩, ?_⟩
  rw [exec_eq_presented h.command, hsql]
  simp [presented, call, c, Output.decorate, Output.hasRows, Output.decorateScalar,
    Output.scalarView?, htest, htext]

end Session

end SqlShorthand
