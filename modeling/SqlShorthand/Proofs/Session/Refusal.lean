import SqlShorthand.Proofs.Session.Surfacing

/-!
# Proofs/Session/Refusal — a refusal leaves nothing behind

An error of the grammar can come from the reader, the compiler, the window of a page, the check of a
model and the text of an expiry.  All of these are asked before anything is done:

* `settles_course` — a command that is settled within the session is refused before it changes it;
* `errorClass_dispatch` / `errorClass_throughLink` — once the backend or the cache is asked, no error
  of the grammar can arise, as far as those two keep to errors of their own.

So an error of the grammar means that nothing was done (`exec_refused`).
-/

namespace SqlShorthand

/-! ## Whose errors are whose -/

/-- A gateway that fails with errors of the connection or the backend only. -/
structure Gateway.FailsRecordably (γ : Type) {β : Type} [Gateway γ β] : Prop where
  connect : ∀ (g : γ) (config : ConnectionConfig) (e : Error),
    (Gateway.connect g config).1 = .error e → e.recordable = true
  fetch : ∀ (g : γ) (link : β) (sql : String) (params : Params) (e : Error),
    (Gateway.fetch g link sql params).1 = .error e → e.recordable = true
  execute : ∀ (g : γ) (link : β) (sql : String) (params : Params) (e : Error),
    (Gateway.execute g link sql params).1 = .error e → e.recordable = true
  lastInsertId : ∀ (g : γ) (link : β) (e : Error),
    (Gateway.lastInsertId g link).1 = .error e → e.recordable = true
  transact : ∀ (g : γ) (link : β) (step : Transaction) (e : Error),
    (Gateway.transact g link step).1 = .error e → e.recordable = true

/-- A store whose writes fail with errors of the cache only. -/
def Store.FailsAsCache (σ : Type) [Store σ] : Prop :=
  ∀ (store : σ) (key : String) (v : Json) (now : Int) (e : Error),
    (Store.write store key v now).1 = .error e → e.errorClass = .cache

theorem MemoryStore.failsAsCache : Store.FailsAsCache MemoryStore := by
  intro store key v now e h
  cases h

theorem FileStore.failsAsCache : Store.FailsAsCache FileStore := by
  intro f key v now e h
  change (f.writeValue key v now).1 = .error e at h
  rw [FileStore.writeValue] at h
  split at h
  · cases h
    rfl
  · split at h
    · cases h
      rfl
    · cases h

theorem AnyStore.failsAsCache : Store.FailsAsCache AnyStore := by
  rintro (m | f) key v now e h
  · exact MemoryStore.failsAsCache m key v now e h
  · exact FileStore.failsAsCache f key v now e h

theorem Error.errorClass_ne_grammar {e : Error} (h : e.recordable = true) :
    e.errorClass ≠ .grammar := by
  intro hclass
  rw [recordable, hclass] at h
  cases h

namespace Session

variable {γ β σ : Type} {id : ConnectionId} {s t : Session γ β σ} {e : Error}

/-! ## No error of the grammar from a backend or a cache -/

/-- Surfacing gives back the error itself, or says that its connection is unknown. -/
theorem errorOf?_surface {α : Type} {r : Except Error α}
    (h : errorOf? (surface id (r, t)).1 = some e) :
    errorOf? r = some e ∨ e = .unknownConnection id := by
  rcases r with e' | a
  · simp only [surface] at h
    split at h
    · exact .inl h
    · split at h
      · exact .inr (Option.some.inj h).symm
      · split at h
        · exact .inl h
        · cases h
  · cases h

theorem errorClass_surface {α : Type} {r : Except Error α}
    (hr : ∀ e, errorOf? r = some e → e.errorClass ≠ .grammar)
    (h : errorOf? (surface id (r, t)).1 = some e) : e.errorClass ≠ .grammar := by
  rcases errorOf?_surface h with h | rfl
  · exact hr e h
  · exact fun hclass => by cases hclass

section Links

variable [Gateway γ β] (hgateway : Gateway.FailsRecordably γ)
include hgateway

theorem recordable_linkResult {α : Type} {g : γ} {c : Connection β}
    {op : γ → β → Except Error α × β × γ}
    (hop : ∀ g link e, (op g link).1 = .error e → e.recordable = true)
    (h : linkResult g c op = .error e) : e.recordable = true := by
  rw [linkResult] at h
  split at h
  · exact hop _ _ e h
  · split at h
    · exact hop _ _ e h
    · rename_i hconnect
      cases h
      exact hgateway.connect g c.config e (congrArg Prod.fst hconnect)

/-- Speaking through a link fails for the link's own reasons. -/
theorem errorClass_throughLink {α : Type} {event : Event}
    {op : γ → β → Except Error α × β × γ}
    (hop : ∀ g link e, (op g link).1 = .error e → e.recordable = true)
    (h : errorOf? (s.throughLink id event op).1 = some e) : e.errorClass ≠ .grammar := by
  cases hc : s.registry.find? id with
  | none =>
    rw [throughLink, hc] at h
    cases h
    exact fun hclass => by cases hclass
  | some c =>
    rw [throughLink_fst hc] at h
    exact Error.errorClass_ne_grammar
      (recordable_linkResult hgateway hop (errorOf?_eq_some.mp h))

variable [Store σ] (hstore : Store.FailsAsCache σ)
include hstore

theorem errorClass_sendFailure? {g : γ} {cache : Option (Cache σ)} {c : Connection β} {sql : String}
    {params : Params} {reading : Reading} {key : Option String}
    (h : sendFailure? g cache c sql params reading key = some e) : e.errorClass ≠ .grammar := by
  rw [sendFailure?.eq_def] at h
  split at h
  · split at h
    · rename_i hfetch
      obtain rfl := Option.some.inj h
      exact Error.errorClass_ne_grammar (recordable_linkResult hgateway
        (fun g link e => hgateway.fetch g link sql params e) hfetch)
    · split at h
      · rename_i key cache
        have hwrite := hstore cache.store key _ cache.clock.now e (errorOf?_eq_some.mp h)
        rw [hwrite]
        exact fun hclass => by cases hclass
      · cases h
  · exact Error.errorClass_ne_grammar (recordable_linkResult hgateway
      (fun g link e => hgateway.execute g link sql params e) (errorOf?_eq_some.mp h))

/-- A statement fails by its values, by a missing cache, or as it is sent. -/
theorem errorClass_statementFailure? {g : γ} {cache : Option (Cache σ)} {c : Connection β}
    {sql : String} {params : Params} {reading : Reading} {useCache : Bool}
    (h : statementFailure? g cache c sql params reading useCache = some e) :
    e.errorClass ≠ .grammar := by
  rw [statementFailure?.eq_def] at h
  split at h
  · rename_i hparams
    obtain rfl := Option.some.inj h
    rw [Params.ensureBindable] at hparams
    split at hparams <;> cases hparams
    exact fun hclass => by cases hclass
  · split at h
    · split at h
      · cases h
        exact fun hclass => by cases hclass
      · dsimp only at h
        split at h
        · cases h
        · exact errorClass_sendFailure? hgateway hstore h
    · exact errorClass_sendFailure? hgateway hstore h

/-- **Running a statement gives no error of the grammar.** -/
theorem errorClass_dispatch {sql : String} {params : Params} {reading : Reading} {useCache : Bool}
    (h : errorOf? (s.dispatch id sql params reading useCache).1 = some e) :
    e.errorClass ≠ .grammar := by
  cases hc : s.registry.find? id with
  | none =>
    rw [dispatch, Registry.contains_eq_false hc] at h
    cases h
    exact fun hclass => by cases hclass
  | some c =>
    rw [errorOf?_dispatch hc] at h
    exact errorClass_statementFailure? hgateway hstore h

theorem errorClass_run {sql : String} {params : Params} {reading : Reading} {useCache : Bool}
    (h : errorOf? (s.run id sql params reading useCache).1 = some e) : e.errorClass ≠ .grammar :=
  errorClass_surface (fun _ => errorClass_dispatch hgateway hstore) h

theorem errorClass_runUnlogged {stmt : Statement}
    (h : errorOf? (s.runUnlogged id stmt).1 = some e) : e.errorClass ≠ .grammar := by
  rw [runUnlogged] at h
  split at h
  · cases h
  · dsimp only at h
    rw [errorOf?_orElse] at h
    exact errorClass_run hgateway hstore h

/-! ## Every call -/

/-- **A command that breaks the grammar is refused before anything is done.** -/
theorem runCommand_refused {c : Command} {args : List Params}
    (h : errorOf? (s.runCommand c args).1 = some e) (hclass : e.errorClass = .grammar) :
    (s.runCommand c args).2 = s := by
  rw [runCommand_eq_follow] at h ⊢
  cases hcourse : s.course c args with
  | settled r after =>
    rw [hcourse] at h
    cases settles_course hcourse with
    | refused | unknown => rfl
    | told | keys | expiry | paging => cases h
  | run sql params reading useCache neutral finish =>
    rw [hcourse, follow, errorOf?_orElse] at h
    exact absurd hclass (errorClass_run hgateway hstore h)
  | runUnlogged stmt =>
    rw [hcourse] at h
    exact absurd hclass (errorClass_runUnlogged hgateway hstore h)
  | insertId =>
    rw [hcourse, follow, insertId, errorOf?_orElse] at h
    exact absurd hclass (errorClass_surface
      (fun _ => errorClass_throughLink hgateway hgateway.lastInsertId) h)
  | transact step =>
    rw [hcourse, follow, transaction, errorOf?_orElse] at h
    exact absurd hclass (errorClass_surface
      (fun _ => errorClass_throughLink hgateway fun g link => hgateway.transact g link step) h)

/-- **An error of the grammar leaves nothing behind**: the session after the call is the one before
it — connections, paging and cache, the gateway, and the trace of what was told or sent. -/
theorem exec_refused (s : Session γ β σ) (call : Call) (e : Error)
    (h : (s.exec call).1 = .error e) (hclass : e.errorClass = .grammar) : (s.exec call).2 = s := by
  cases htokenize : s.tokenize call.command with
  | error e' => rw [exec, htokenize]
  | ok c =>
    obtain ⟨hafter, herror⟩ := exec_of_tokenize s htokenize
    rw [errorOf?_eq_some.mpr h] at herror
    rw [hafter]
    exact runCommand_refused hgateway hstore herror.symm hclass

end Links

theorem Unreachable.failsRecordably : Gateway.FailsRecordably Unreachable where
  connect _ _ _ h := by cases h; rfl
  fetch _ _ _ _ _ h := by cases h
  execute _ _ _ _ _ h := by cases h
  lastInsertId _ _ _ h := by cases h
  transact _ _ _ _ h := by cases h

/-- A write without named values, on a connection with a log handler and with a key set in the cache
for one query: refused, and the key is still set. -/
theorem exec_refused_insert :
    let conn : Connection Unit :=
      { id := 1, config := { host := "h", database := "d", user := "u", password := "",
                             logHandler := some fun _ => false } }
    let s : Session Unreachable Unit AnyStore :=
      { gateway := ⟨⟩, registry := { connections := [conn] }
        cache := some { store := .files { folder := "cache" }, clock := .fixed 0, key := some "k" } }
    (s.exec { command := "users:add" }).1 = .error (.missingColumns "Insert") ∧
      (s.exec { command := "users:add" }).2 = s := by
  intro conn s
  have h : (s.exec { command := "users:add" }).1 = .error (.missingColumns "Insert") := by cbv
  exact ⟨h, exec_refused Unreachable.failsRecordably AnyStore.failsAsCache s _ _ h rfl⟩

end Session

end SqlShorthand
