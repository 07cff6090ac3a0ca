import SqlShorthand.Proofs.Session.Log

/-!
# Proofs/Session/OneShot — what is set for one query serves one query

An expiry, a key and a key label can be set for one query.  They are read in the middle of a
statement, when it looks into the cache, and forgotten there (`Cache.UsedUp`): before the entry is
read, before the link is opened and before the rows are kept.  So nothing that goes wrong later can
make them last (`usedUp_cacheAfter`).

* `Cache.Holds` — what a look-up finds, by the settings before it.
* `Bypasses` — why a call never looks; `cacheQuery?_eq_none_iff` says that there is no other reason.
  Such a call leaves the cache as it is, except that the verb `cache` sets the expiry.

A run of calls therefore carries the settings to the first call that looks, and no further
(`cache_execAll`).
-/

namespace SqlShorthand

/-! ## Looking uses up what was set -/

namespace Cache

variable {σ : Type} {cache after last : Cache σ}

/-- **What was set for one query is used up**: the expiry is that of every query, and there is
neither a key nor a label. -/
structure UsedUp (cache after : Cache σ) : Prop where
  expireGlobal : after.expireGlobal = cache.expireGlobal
  expire : after.expire = cache.expireGlobal
  key : after.key = none
  label : after.label = none

theorem UsedUp.trans (h : UsedUp cache after) (h' : UsedUp after last) : UsedUp cache last :=
  ⟨h'.expireGlobal.trans h.expireGlobal, h'.expire.trans h.expireGlobal, h'.key, h'.label⟩

/-- The entries are no part of the settings. -/
theorem UsedUp.withStore (h : UsedUp cache after) (store : σ) :
    UsedUp cache { after with store } := ⟨h.expireGlobal, h.expire, h.key, h.label⟩

/-- **The key of a query**: the one that was set for it, else the digest behind the label that was
set for it. -/
theorem keyFor_eq (cache : Cache σ) (id : ConnectionId) (sql : String) (params : Params) :
    cache.keyFor id sql params
      = cache.key.getD ((cache.label.elim "" (· ++ "-"))
          ++ Digest.sha1Hex (keyMessage id sql params)) := by
  rw [keyFor]
  cases cache.key with
  | some key => rfl
  | none => cases cache.label <;> simp

variable [Store σ]

/-- **What a look-up finds under a key**: the rows of an entry that is fresh by the expiry in force,
where the entry can be read and is a list. -/
def Holds (cache : Cache σ) (key : String) (rows : List Json) : Prop :=
  ∃ written, (Store.writtenAt cache.store key).1 = some written ∧
    cache.expire.fresh cache.clock.now written = true ∧
    (Store.read (Store.writtenAt cache.store key).2 key).1 = .ok (.arr rows)

theorem usedUp_has (cache : Cache σ) (key : String) : UsedUp cache (cache.has key).2 := by
  rw [has_eq]
  exact ⟨rfl, rfl, rfl, rfl⟩

end Cache

namespace Session

variable {γ β σ : Type} [Store σ]

theorem usedUp_cachedRows? (cache : Cache σ) (key : String) :
    cache.UsedUp (cachedRows? cache key).2 := by
  have husedUp := cache.usedUp_has key
  rw [cachedRows?]
  split
  · rename_i hhas
    rwa [hhas] at husedUp
  · rename_i asked hhas
    rw [hhas] at husedUp
    have hread := husedUp.withStore (Store.read asked.store key).2
    split <;> rename_i h <;> rw [← congrArg Prod.snd h] <;> exact hread

theorem cachedRows?_iff_holds {cache : Cache σ} {key : String} {rows : List Json} :
    (cachedRows? cache key).1 = some rows ↔ cache.Holds key rows := by
  rw [cachedRows?, Cache.has_eq, Cache.Holds]
  cases hwritten : (Store.writtenAt cache.store key).1 with
  | none => simp
  | some written =>
    cases hfresh : cache.expire.fresh cache.clock.now written with
    | false => simp [hfresh]
    | true =>
      simp only [Option.any_some, hfresh, Cache.read, Cache.reset]
      rcases (Store.read (Store.writtenAt cache.store key).2 key).1 with e | v
      · simp
      · cases v <;> simp [hfresh]

variable [Gateway γ β]

/-- **However a statement ends that asked the cache, what was set for one query is used up.** -/
theorem usedUp_cacheAfter (g : γ) (c : Connection β) (cache : Cache σ) (sql : String)
    (params : Params) (reading : Reading) :
    cache.UsedUp (cacheAfter g c cache sql params reading) := by
  have hasked := usedUp_cachedRows? cache (cache.keyFor c.id sql params)
  rw [cacheAfter]
  generalize cachedRows? cache (cache.keyFor c.id sql params) = asked at hasked
  obtain ⟨found, after⟩ := asked
  split
  · rename_i hpair _
    cases hpair
    exact hasked.withStore _
  · rename_i hpair _
    cases hpair
    exact hasked

/-! ## Calls that never look -/

section Calls

variable {s : Session γ β σ} {call : Call} {c : Command} {args : List Params} {stmt : Statement}
  {params : Params} {options : Options} {q : CacheQuery β}

/-- **A command that is refused before it comes to its statement**: it does not compile, or a page
is asked of SQL that has a LIMIT or is no SELECT. -/
inductive RefusedFirst (c : Command) (args : List Params) : Error → Prop where
  | uncompiled {e : Error} (h : c.compile (.resolve c.options) args = .error e) :
      RefusedFirst c args e
  | limited {stmt : Statement} (hstmt : c.compile (.resolve c.options) args = .ok stmt)
      (hpage : (Options.resolve c.options).has .pagination = true)
      (h : Statement.hasLimit stmt.sql = true) : RefusedFirst c args .pagingConflict
  | notSelect {stmt : Statement} (hstmt : c.compile (.resolve c.options) args = .ok stmt)
      (hpage : (Options.resolve c.options).has .pagination = true) (hverb : c.verb = some .query)
      (h : Statement.isSelectSql stmt.sql = false) : RefusedFirst c args .pagingNotSelect

omit [Store σ] [Gateway γ β] in
/-- Such a command breaks a rule of the grammar. -/
theorem RefusedFirst.errorClass {e : Error} (h : RefusedFirst c args e) :
    e.errorClass = .grammar := by
  cases h with
  | uncompiled h => exact Command.errorClass_of_compile h
  | limited | notSelect => rfl

/-- **Why a command does not come to a statement that looks into the cache.** -/
inductive SkipsCache (c : Command) (args : List Params) : Prop where
  | uncached (h : (Options.resolve c.options).has .cache = false)
  | otherVerb (hselect : c.verb ≠ none) (hquery : c.verb ≠ some .query)
  /-- The SQL is shown. -/
  | shown (h : (Options.resolve c.options).has .query = true)
  /-- The record of a selection is described. -/
  | described (hselect : c.verb = none)
      (h : ((Options.resolve c.options).has .model && c.rowId.isNone) = true)
  | refused {e : Error} (h : RefusedFirst c args e)

/-- **Why a call never looks into the cache**: it cannot be read, its command does not ask for it,
its connection is unknown or a value is raw. -/
inductive Bypasses (s : Session γ β σ) (call : Call) : Prop where
  | unreadable {e : Error} (h : s.tokenize call.command = .error e)
  | skips {c : Command} (hc : s.tokenize call.command = .ok c) (h : SkipsCache c call.args)
  | unknown {c : Command} (hc : s.tokenize call.command = .ok c)
      (h : s.registry.find? c.connection = none)
  | raw {c : Command} {stmt : Statement} {v : Value} (h : Compiles s call c stmt)
      (hv : v ∈ stmt.params.values) (hraw : v.isRaw = true)

omit [Store σ] [Gateway γ β] in
/-- A selection runs its statement if it is not shown, described or refused… -/
theorem selectCourse_run_iff :
    (∃ sql reading neutral finish, s.selectCourse c options args
        = .run sql params reading (options.has .cache) neutral finish) ↔
      options.has .query = false ∧ (options.has .model && c.rowId.isNone) = false ∧
        ∃ stmt, c.compile options args = .ok stmt ∧ stmt.params = params ∧
          (options.has .pagination = true → Statement.hasLimit stmt.sql = false) := by
  rw [selectCourse]
  cases c.compile options args with
  | error e => simp
  | ok stmt =>
    cases options.has .query <;> cases options.has .model && c.rowId.isNone
    case false.false =>
      cases options.has .pagination with
      | true =>
        cases hlimit : Statement.hasLimit stmt.sql <;> simp [Paging.prepare, hlimit, pageCourse]
      | false =>
        cases c.rowId.isSome || options.has .first <;> simp [firstRowCourse, executeCourse]
    all_goals
      cases options.has .pagination <;> cases hlimit : Statement.hasLimit stmt.sql <;>
        simp [Paging.prepare, hlimit, modelCourse]

omit [Store σ] [Gateway γ β] in
/-- …and so does SQL written by hand. -/
theorem queryCourse_run_iff :
    (∃ sql reading neutral finish, s.queryCourse c options args
        = .run sql params reading (options.has .cache) neutral finish) ↔
      options.has .query = false ∧ ∃ stmt, c.compile options args = .ok stmt ∧
        stmt.params = params ∧ (options.has .pagination = true →
          Statement.isSelectSql stmt.sql = true ∧ Statement.hasLimit stmt.sql = false) := by
  rw [queryCourse]
  cases c.compile options args with
  | error e => simp
  | ok stmt =>
    cases options.has .query with
    | true => simp
    | false =>
      cases options.has .pagination with
      | true =>
        cases hselect : Statement.isSelectSql stmt.sql <;>
          cases hlimit : Statement.hasLimit stmt.sql <;>
            simp [hselect, Paging.prepare, hlimit, pageCourse]
      | false => cases options.has .first <;> simp [firstRowCourse, executeCourse]

omit [Store σ] in
/-- A statement that looks into the cache is that of a command which does not skip it. -/
theorem not_skipsCache_of_course {sql : String} {reading : Reading} {neutral : Output}
    {finish : Outcome → Output}
    (h : s.course c args = .run sql params reading true neutral finish) :
    ¬SkipsCache c args ∧
      ∃ stmt, c.compile (.resolve c.options) args = .ok stmt ∧ stmt.params = params := by
  have hpermits := permits_of_course h
  rw [course] at h
  rcases hpermits with hverb | ⟨hverb, hcached⟩
  · rw [hverb] at h
    cases h
  rw [← hcached] at h
  rcases hverb with hverb | hverb <;> rw [hverb] at h
  · obtain ⟨hquery, hmodel, stmt, hstmt, hparams, hlimit⟩ :=
      selectCourse_run_iff.mp ⟨sql, reading, neutral, finish, h⟩
    refine ⟨fun hskips => ?_, stmt, hstmt, hparams⟩
    cases hskips with
    | otherVerb hselect => exact hselect hverb
    | refused hrefused => cases hrefused <;> simp_all
    | uncached | shown | described => simp_all
  · obtain ⟨hquery, stmt, hstmt, hparams, hpaged⟩ :=
      queryCourse_run_iff.mp ⟨sql, reading, neutral, finish, h⟩
    refine ⟨fun hskips => ?_, stmt, hstmt, hparams⟩
    cases hskips with
    | otherVerb _ hno => exact hno hverb
    | refused hrefused => cases hrefused <;> simp_all
    | uncached | shown | described => simp_all

omit [Store σ] in
/-- …and a command which does not skip it comes to one. -/
theorem course_of_not_skipsCache (s : Session γ β σ) (h : ¬SkipsCache c args) :
    ∃ stmt sql reading neutral finish, c.compile (.resolve c.options) args = .ok stmt ∧
      s.course c args = .run sql stmt.params reading true neutral finish := by
  have hcached : (Options.resolve c.options).has .cache = true := by
    by_contra hno
    exact h (.uncached (Bool.eq_false_iff.mpr hno))
  have hquery : (Options.resolve c.options).has .query = false :=
    Bool.eq_false_iff.mpr fun hyes => h (.shown hyes)
  cases hstmt : c.compile (.resolve c.options) args with
  | error e => exact absurd (.refused (.uncompiled hstmt)) h
  | ok stmt =>
    have hlimit : (Options.resolve c.options).has .pagination = true →
        Statement.hasLimit stmt.sql = false := fun hpage =>
      Bool.eq_false_iff.mpr fun hyes => h (.refused (.limited hstmt hpage hyes))
    refine ⟨stmt, ?_⟩
    simp only [true_and, ← hcached, course]
    split
    · rename_i hverb
      have hmodel := Bool.eq_false_iff.mpr fun hyes => h (.described hverb hyes)
      exact selectCourse_run_iff.mpr ⟨hquery, hmodel, stmt, hstmt, rfl, hlimit⟩
    · rename_i hverb
      refine queryCourse_run_iff.mpr ⟨hquery, stmt, hstmt, rfl, fun hpage => ⟨?_, hlimit hpage⟩⟩
      by_contra hno
      exact h (.refused (.notSelect hstmt hpage hverb (Bool.eq_false_iff.mpr hno)))
    · rename_i verb hne hverb
      refine absurd (.otherVerb ?_ ?_) h <;> simp_all

omit [Store σ] in
/-- **A call bypasses the cache exactly if it comes to no statement that looks into it.** -/
theorem cacheQuery?_eq_none_iff : s.cacheQuery? call = none ↔ s.Bypasses call := by
  constructor
  · intro h
    cases hc : s.tokenize call.command with
    | error e => exact .unreadable hc
    | ok c =>
      by_cases hskips : SkipsCache c call.args
      · exact .skips hc hskips
      cases hconn : s.registry.find? c.connection with
      | none => exact .unknown hc hconn
      | some conn =>
        obtain ⟨stmt, sql, reading, neutral, finish, hstmt, hcourse⟩ :=
          course_of_not_skipsCache s hskips
        by_contra hno
        have hbindable : stmt.params.ensureBindable = .ok () :=
          Params.ensureBindable_of_forall fun v hv =>
            Bool.eq_false_iff.mpr fun hraw => hno (.raw ⟨hc, hstmt⟩ hv hraw)
        simp [cacheQuery?, hc, hconn, hcourse, hbindable] at h
  · intro h
    by_contra hsome
    obtain ⟨q, hq⟩ := Option.ne_none_iff_exists'.mp hsome
    have hasks := asks_of_cacheQuery? hq
    obtain ⟨neutral, hcourse⟩ := hasks.course
    obtain ⟨hskips, stmt, hstmt, hparams⟩ := not_skipsCache_of_course hcourse
    cases h with
    | unreadable he => cases hasks.tokenize.symm.trans he
    | skips hc hno =>
      cases hasks.tokenize.symm.trans hc
      exact hskips hno
    | unknown hc hnone =>
      cases hasks.tokenize.symm.trans hc
      cases hasks.connection.symm.trans hnone
    | raw hraw hv hvraw =>
      cases hasks.tokenize.symm.trans hraw.command
      cases hstmt.symm.trans hraw.statement
      have hfalse := Params.isRaw_of_ensureBindable hasks.bindable (hparams ▸ hv)
      cases hvraw.symm.trans hfalse

/-! ## The verb that sets the expiry -/

/-- **The expiry that a call sets for the next query**: that of the verb `cache`, if it can be
read. -/
def expirySet? (s : Session γ β σ) (call : Call) : Option Expiry :=
  match s.tokenize call.command with
  | .ok c => if c.verb = some .cache then Expiry.ofText? c.clause else none
  | .error _ => none

omit [Store σ] in
theorem expirySet?_eq_none
    (h : ∀ c, Command.parse call.command = .ok c → c.verb ≠ some .cache) :
    s.expirySet? call = none := by
  rw [expirySet?]
  cases hparse : Command.parse call.command with
  | error e => rw [tokenize, hparse]
  | ok c =>
    obtain ⟨clause, hc⟩ := tokenize_eq s hparse
    rw [hc]
    exact if_neg (h c hparse)

omit [Gateway γ β] [Store σ] in
theorem cacheCommand_cache {cache : Cache σ} (hcache : s.cache = some cache) (c : Command) :
    (s.cacheCommand c).2.cache = some ((Expiry.ofText? c.clause).elim cache cache.setExpire) := by
  rw [cacheCommand]
  split
  · rename_i hempty
    have hnone : Expiry.ofText? "" = none := by decide +kernel
    rw [String.isEmpty_iff.mp hempty, hnone]
    exact hcache
  · rw [hcache, Expiry.parse]
    cases Expiry.ofText? c.clause with
    | none => exact hcache
    | some e => rfl

/-- **A call that bypasses the cache leaves it as it is**, except for the expiry that it sets. -/
theorem Bypasses.exec_cache (h : s.Bypasses call) {cache : Cache σ}
    (hcache : s.cache = some cache) :
    (s.exec call).2.cache = some ((s.expirySet? call).elim cache cache.setExpire) := by
  have hunasked := exec_cache_of_cacheQuery?_eq_none (cacheQuery?_eq_none_iff.mpr h)
  cases hc : s.tokenize call.command with
  | error e =>
    rw [exec, expirySet?, hc]
    exact hcache
  | ok c =>
    simp only [expirySet?, hc]
    by_cases hverb : c.verb = some .cache
    · have hcommand : s.runCommand c call.args = s.cacheCommand c := by
        rw [runCommand, hverb]
        rfl
      rw [if_pos hverb, (exec_of_tokenize s hc).1, hcommand, cacheCommand_cache hcache]
    · rw [if_neg hverb]
      rcases hunasked with hsame | ⟨c', e, hc', hverb', -⟩
      · exact hsame.trans hcache
      · cases hc.symm.trans hc'
        exact absurd hverb' hverb

/-- A call that does not bypass the cache leaves in it what a statement with the flag leaves. -/
theorem exec_cache_of_not_bypasses (h : ¬s.Bypasses call) :
    ∃ c conn sql params reading, s.tokenize call.command = .ok c ∧
      s.registry.find? c.connection = some conn ∧ (∀ v ∈ params.values, v.isRaw = false) ∧
      (s.exec call).2.cache = (s.dispatch c.connection sql params reading true).2.cache := by
  rw [← cacheQuery?_eq_none_iff] at h
  obtain ⟨q, hq⟩ := Option.ne_none_iff_exists'.mp h
  have hasks := asks_of_cacheQuery? hq
  obtain ⟨neutral, hcourse⟩ := hasks.course
  refine ⟨q.command, q.conn, q.sql, q.params, q.reading, hasks.tokenize, hasks.connection,
    fun v => Params.isRaw_of_ensureBindable hasks.bindable, ?_⟩
  rw [(exec_of_tokenize s hasks.tokenize).1, runCommand_eq_follow, hcourse, follow, orElse_snd,
    run_cache]

/-! ## Runs -/

/-- Some call of a run looks into the cache. -/
def looksUp : Session γ β σ → List Call → Prop
  | _, [] => False
  | s, call :: calls => ¬s.Bypasses call ∨ looksUp (s.exec call).2 calls

theorem usedUp_dispatch {cache : Cache σ} (hcache : s.cache = some cache) {id : ConnectionId}
    {conn : Connection β} (hconn : s.registry.find? id = some conn) (sql : String)
    (hparams : ∀ v ∈ params.values, v.isRaw = false) (reading : Reading) :
    ∃ after, (s.dispatch id sql params reading true).2.cache = some after ∧ cache.UsedUp after :=
  ⟨_, dispatch_cache hconn hcache sql (Params.ensureBindable_of_forall hparams) reading,
    usedUp_cacheAfter _ _ _ _ _ _⟩

theorem usedUp_exec {cache : Cache σ} (hcache : s.cache = some cache) (h : ¬s.Bypasses call) :
    ∃ after, (s.exec call).2.cache = some after ∧ cache.UsedUp after := by
  obtain ⟨c, conn, sql, params, reading, -, hconn, hparams, hexec⟩ := exec_cache_of_not_bypasses h
  rw [hexec]
  exact usedUp_dispatch hcache hconn sql hparams reading

/-- **A run of calls carries what was set to the first call that looks into the cache**, and no
further; the verb `cache` would set it anew. -/
theorem cache_execAll {cache : Cache σ} (hcache : s.cache = some cache) (calls : List Call)
    (hcalls : ∀ call ∈ calls, ∀ c, Command.parse call.command = .ok c → c.verb ≠ some .cache) :
    ∃ last, (s.execAll calls).cache = some last ∧
      (¬s.looksUp calls → last = cache) ∧ (s.looksUp calls → cache.UsedUp last) := by
  induction calls generalizing s cache with
  | nil => exact ⟨cache, hcache, fun _ => rfl, False.elim⟩
  | cons call calls ih =>
    obtain ⟨hcall, hrest⟩ := List.forall_mem_cons.mp hcalls
    by_cases hbypasses : s.Bypasses call
    · have hsame := hbypasses.exec_cache hcache
      rw [expirySet?_eq_none hcall] at hsame
      obtain ⟨last, hlast, hkept, hused⟩ := ih hsame hrest
      refine ⟨last, hlast, fun hnone => hkept fun hlater => hnone (.inr hlater), ?_⟩
      rintro (hno | hlater)
      · exact absurd hbypasses hno
      · exact hused hlater
    · obtain ⟨after, hafter, husedUp⟩ := usedUp_exec hcache hbypasses
      obtain ⟨last, hlast, hkept, hused⟩ := ih hafter hrest
      refine ⟨last, hlast, fun hnone => absurd (.inl hbypasses) hnone, fun _ => ?_⟩
      by_cases hlater : looksUp (s.exec call).2 calls
      · exact husedUp.trans (hused hlater)
      · exact hkept hlater ▸ husedUp

/-! ## One look-up -/

/-- **A statement with the flag for the cache looks into it once**, by what was set before. -/
structure LooksOnce (s : Session γ β σ) (cache : Cache σ) (id : ConnectionId) (sql : String)
    (params : Params) (reading : Reading) : Prop where
  /-- The key is the one that was set, else the digest behind the label that was set. -/
  key : cache.keyFor id sql params
    = cache.key.getD (cache.label.elim "" (· ++ "-")
        ++ Digest.sha1Hex (Cache.keyMessage id sql params))
  /-- Rows that are held under it, fresh by the expiry that was set, are the answer… -/
  hit : ∀ rows, cache.Holds (cache.keyFor id sql params) rows →
    (s.dispatch id sql params reading true).1 = .ok (.rows rows)
  /-- …and without such rows the statement is sent, when nothing is set any more. -/
  miss : (∀ rows, ¬cache.Holds (cache.keyFor id sql params) rows) →
    ∃ asked, cache.UsedUp asked ∧ s.dispatch id sql params reading true
      = { s.logged id sql params with cache := some asked }.send id sql params reading
          (some (cache.keyFor id sql params))
  /-- However it ends, what was set is used up. -/
  used_up : ∃ after, (s.dispatch id sql params reading true).2.cache = some after ∧
    cache.UsedUp after

theorem looksOnce_dispatch {cache : Cache σ} (hcache : s.cache = some cache) {id : ConnectionId}
    {conn : Connection β} (hconn : s.registry.find? id = some conn) (sql : String)
    (hparams : ∀ v ∈ params.values, v.isRaw = false) (reading : Reading) :
    LooksOnce s cache id sql params reading := by
  have hdispatch :=
    dispatch_eq_answer hconn sql (Params.ensureBindable_of_forall hparams) reading true
  have hlogged := (logged_cache s id sql params).trans hcache
  rw [answer, if_pos rfl, lookUp_eq _ id sql params hlogged] at hdispatch
  refine ⟨cache.keyFor_eq id sql params, fun rows hholds => ?_, fun hnone => ?_,
    usedUp_dispatch hcache hconn sql hparams reading⟩
  · rw [hdispatch, cachedRows?_iff_holds.mpr hholds]
  · have hmiss : (cachedRows? cache (cache.keyFor id sql params)).1 = none :=
      Option.eq_none_iff_forall_ne_some.mpr fun rows hrows =>
        hnone rows (cachedRows?_iff_holds.mp hrows)
    rw [hmiss] at hdispatch
    exact ⟨_, usedUp_cachedRows? cache _, hdispatch⟩

/-- **What is set for one query serves one look-up.**  A statement that asks the cache takes its key
and decides on freshness by what was set before, and afterwards nothing is set; so is it after every
call that comes to such a statement.  Every other call leaves the cache as it is, except that the
verb `cache` sets the expiry; among them are those that the grammar refuses.  So a run of calls
carries what was set to the first look-up, and no further. -/
theorem one_shot_settings_serve_one_lookup (s : Session γ β σ) (cache : Cache σ)
    (hcache : s.cache = some cache) :
    (∀ id conn sql params reading, s.registry.find? id = some conn →
      (∀ v ∈ params.values, v.isRaw = false) → LooksOnce s cache id sql params reading) ∧
    (∀ call, ¬s.Bypasses call →
      ∃ c conn sql params reading after, s.tokenize call.command = .ok c ∧
        s.registry.find? c.connection = some conn ∧ (∀ v ∈ params.values, v.isRaw = false) ∧
        (s.exec call).2.cache = (s.dispatch c.connection sql params reading true).2.cache ∧
        (s.exec call).2.cache = some after ∧ cache.UsedUp after) ∧
    (∀ call, s.Bypasses call →
      (s.exec call).2.cache = some ((s.expirySet? call).elim cache cache.setExpire)) ∧
    (∀ c args e, RefusedFirst c args e → e.errorClass = .grammar) ∧
    ∀ calls : List Call,
      (∀ call ∈ calls, ∀ c, Command.parse call.command = .ok c → c.verb ≠ some .cache) →
      ∃ last, (s.execAll calls).cache = some last ∧
        (¬s.looksUp calls → last = cache) ∧ (s.looksUp calls → cache.UsedUp last) := by
  refine ⟨fun id conn sql params reading hconn hparams =>
    looksOnce_dispatch hcache hconn sql hparams reading, fun call hlooks => ?_,
    fun call hbypasses => hbypasses.exec_cache hcache, fun c args e => RefusedFirst.errorClass,
    cache_execAll hcache⟩
  obtain ⟨c, conn, sql, params, reading, hc, hconn, hparams, hexec⟩ :=
    exec_cache_of_not_bypasses hlooks
  obtain ⟨after, hafter, husedUp⟩ := usedUp_exec hcache hlooks
  exact ⟨c, conn, sql, params, reading, after, hc, hconn, hparams, hexec, hafter, husedUp⟩

end Calls

/-- An entry that is old, under a key that is set for one query along with an expiry that lets it
live.  A call that only shows its SQL leaves both; a selection then finds the entry, and uses them
up. -/
theorem one_shot_settings_serve_one_lookup_hit :
    let config : ConnectionConfig := { host := "h", database := "d", user := "u", password := "" }
    let cache : Cache MemoryStore :=
      { store := ⟨[("k", 0, .arr [.obj [("n", .int 7)]])]⟩, clock := .fixed 1000
        expire := .never, key := some "k" }
    let s : Session Counting Unit MemoryStore :=
      { gateway := {}, registry := { connections := [{ id := 1, config }] }, cache := some cache }
    (s.exec { command := "users/cache/query" }).2.cache = some cache ∧
      (s.dispatch 1 "SELECT * FROM users" .none .rows true).1
        = .ok (.rows [.obj [("n", .int 7)]]) ∧
      ∃ after, (s.exec { command := "users/cache" }).2.cache = some after ∧ cache.UsedUp after := by
  intro config cache s
  obtain ⟨hdispatch, hlooks, hbypasses, -⟩ := one_shot_settings_serve_one_lookup s cache rfl
  have hshown : s.Bypasses { command := "users/cache/query" } := by
    refine .skips (c := { table := "users", options := ["cache", "query"] }) ?_ (.shown ?_)
    · decide +kernel
    · decide +kernel
  have hasks : ¬s.Bypasses { command := "users/cache" } := by
    rw [← cacheQuery?_eq_none_iff]
    cbv
    exact Option.some_ne_none _
  obtain ⟨c, conn, sql, params, reading, after, -, -, -, -, hafter, husedUp⟩ := hlooks _ hasks
  have hunset : s.expirySet? { command := "users/cache/query" } = none := by decide +kernel
  refine ⟨?_, ?_, after, hafter, husedUp⟩
  · rw [hbypasses _ hshown, hunset]
    rfl
  · exact (hdispatch 1 _ _ .none .rows rfl (by decide)).hit _ ⟨0, by decide, by decide, rfl⟩

end Session

end SqlShorthand
