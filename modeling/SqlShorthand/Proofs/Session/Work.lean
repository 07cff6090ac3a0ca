import Mathlib
import SqlShorthand.Proofs.Registry
import SqlShorthand.Session.Basic

/-!
# Proofs/Session/Work — what a statement may do to a session

`dispatch` logs, looks into the cache, opens a link and speaks through it.  `WorkStep` lists these
things once, each as a change of the session on one connection, and `work_dispatch` /
`work_throughLink` say that nothing else happens.  A property of statements is then a property of
the five steps:

* `Work.connection` — the connection keeps its configuration, keys and last error, and its log and
  link only grow;
* `Work.trace` — what is told to the outside tells of no error.

Noting errors is `surface`'s business alone, and comes after the work.
-/

namespace SqlShorthand

/-! ## Lines and events that tell of an error -/

/-- A log line that tells of an error. -/
def IsErrorLine (line : String) : Prop := ∃ message, line = Connection.errorLine message

/-- Something that tells an error: a handler's call, or an error line that a log handler gets. -/
def Event.TellsError : Event → Prop
  | .errorNotice _ _ => True
  | .logLine _ line => IsErrorLine line
  | _ => False

/-- A line that starts with another character is no error line. -/
theorem not_isErrorLine {line : String} {ch : Char} (h : line.toList.head? = some ch)
    (hch : ch ≠ 'E') : ¬IsErrorLine line := by
  rintro ⟨message, rfl⟩
  have hhead : (Connection.errorLine message).toList.head? = some 'E' := by
    delta Connection.errorLine
    rw [String.toList_append]
    rfl
  exact hch (Option.some.inj (h.symm.trans hhead))

theorem head?_toList_append {p : String} {ch : Char} (h : p.toList.head? = some ch) (q : String) :
    (p ++ q).toList.head? = some ch := by
  rw [String.toList_append, List.head?_append, h]
  rfl

namespace Connection

variable {β : Type}

/-- **The connection after some work**: the configuration, the keys and the last error are kept,
the log grows by lines that tell of no error, and a link that is there stays there. -/
structure Extends (c d : Connection β) : Prop where
  id : d.id = c.id
  config : d.config = c.config
  keys : d.keys = c.keys
  lastError : d.lastError = c.lastError
  log : ∃ lines, d.log = c.log ++ lines ∧ ∀ line ∈ lines, ¬IsErrorLine line
  link : c.isConnected = true → d.isConnected = true

theorem Extends.refl (c : Connection β) : Extends c c where
  id := rfl
  config := rfl
  keys := rfl
  lastError := rfl
  log := ⟨[], (List.append_nil _).symm, fun _ h => absurd h List.not_mem_nil⟩
  link := fun h => h

theorem Extends.trans {c d e : Connection β} (h : Extends c d) (h' : Extends d e) : Extends c e := by
  obtain ⟨lines, hlines, hfine⟩ := h.log
  obtain ⟨lines', hlines', hfine'⟩ := h'.log
  refine ⟨h'.id.trans h.id, h'.config.trans h.config, h'.keys.trans h.keys,
    h'.lastError.trans h.lastError, ⟨lines ++ lines', ?_, ?_⟩, fun hc => h'.link (h.link hc)⟩
  · rw [hlines', hlines, List.append_assoc]
  · intro line hline
    rcases List.mem_append.mp hline with hline | hline
    · exact hfine line hline
    · exact hfine' line hline

@[simp] theorem pushLog_id (c : Connection β) (line : String) : (c.pushLog line).id = c.id := by
  rw [pushLog]; split <;> rfl

@[simp] theorem pushLog_config (c : Connection β) (line : String) :
    (c.pushLog line).config = c.config := by
  rw [pushLog]; split <;> rfl

@[simp] theorem pushLog_keys (c : Connection β) (line : String) :
    (c.pushLog line).keys = c.keys := by
  rw [pushLog]; split <;> rfl

@[simp] theorem pushLog_lastError (c : Connection β) (line : String) :
    (c.pushLog line).lastError = c.lastError := by
  rw [pushLog]; split <;> rfl

@[simp] theorem pushLog_link (c : Connection β) (line : String) :
    (c.pushLog line).link = c.link := by
  rw [pushLog]; split <;> rfl

theorem pushLog_log (c : Connection β) (line : String) :
    (c.pushLog line).log = c.log ∨ (c.pushLog line).log = c.log ++ [line] := by
  rw [pushLog]
  split
  · exact .inr rfl
  · exact .inl rfl

theorem extends_pushLog (c : Connection β) {line : String} (h : ¬IsErrorLine line) :
    Extends c (c.pushLog line) := by
  refine ⟨pushLog_id c line, pushLog_config c line, pushLog_keys c line, pushLog_lastError c line,
    ?_, fun hc => ?_⟩
  · rcases pushLog_log c line with hlog | hlog
    · exact ⟨[], by rw [hlog, List.append_nil], fun _ hl => absurd hl List.not_mem_nil⟩
    · exact ⟨[line], hlog, fun l hl => List.mem_singleton.mp hl ▸ h⟩
  · rwa [isConnected, pushLog_link]

theorem extends_link (c : Connection β) (link : β) : Extends c { c with link := some link } where
  id := rfl
  config := rfl
  keys := rfl
  lastError := rfl
  log := ⟨[], (List.append_nil _).symm, fun _ h => absurd h List.not_mem_nil⟩
  link := fun _ => rfl

theorem mem_lineEvents {c : Connection β} {line : String} {event : Event}
    (h : event ∈ c.lineEvents line) : event = .logLine c.id line := by
  rw [lineEvents] at h
  split at h
  · exact List.mem_singleton.mp h
  · exact absurd h List.not_mem_nil

end Connection

namespace Session

variable {γ β σ : Type} {id id' : ConnectionId} {s t u : Session γ β σ}

/-! ## The steps -/

/-- The events of a backend at work for a connection. -/
inductive IsOperation (id : ConnectionId) : Event → Prop where
  | connect (host database : String) : IsOperation id (.connect id host database)
  | fetch (sql : String) (params : Params) : IsOperation id (.fetch id sql params)
  | execute (sql : String) (params : Params) : IsOperation id (.execute id sql params)
  | lastInsertId : IsOperation id (.lastInsertId id)
  | transaction (step : Transaction) : IsOperation id (.transaction id step)

/-- **What the work on one statement may do**, one thing at a time. -/
inductive WorkStep (id : ConnectionId) : Session γ β σ → Session γ β σ → Prop where
  /-- A line that tells of no error is logged. -/
  | log {s : Session γ β σ} (line : String) (h : ¬IsErrorLine line) :
      WorkStep id s (s.pushLog id line)
  /-- The gateway is asked for something. -/
  | speak {s : Session γ β σ} (gateway : γ) (event : Event) (h : IsOperation id event) :
      WorkStep id s { s with gateway, trace := s.trace ++ [event] }
  /-- The link that the gateway left is kept. -/
  | link {s : Session γ β σ} (link : β) :
      WorkStep id s
        { s with registry := s.registry.modify id fun c => { c with link := some link } }
  /-- The cache is looked into or written to. -/
  | cache {s : Session γ β σ} (cache : Option (Cache σ)) : WorkStep id s { s with cache }

/-- Any number of steps. -/
abbrev Work (id : ConnectionId) : Session γ β σ → Session γ β σ → Prop :=
  Relation.ReflTransGen (WorkStep id)

/-! ## What the steps keep -/

theorem find?_pushLog_self (s : Session γ β σ) (id : ConnectionId) (line : String) :
    (s.pushLog id line).registry.find? id = (s.registry.find? id).map (·.pushLog line) := by
  rw [pushLog]
  split
  · exact Registry.find?_modify_self _ fun c => c.pushLog_id line
  · rename_i h
    rw [h]
    rfl

/-- One step extends its connection. -/
theorem WorkStep.connection (h : WorkStep id s t) {c : Connection β}
    (hc : s.registry.find? id = some c) : ∃ d, t.registry.find? id = some d ∧ c.Extends d := by
  cases h with
  | log line hline =>
    refine ⟨c.pushLog line, ?_, c.extends_pushLog hline⟩
    rw [find?_pushLog_self, hc]
    rfl
  | speak gateway event hevent => exact ⟨c, hc, .refl c⟩
  | link link =>
    refine ⟨{ c with link := some link }, ?_, c.extends_link link⟩
    have hid : ∀ d : Connection β, { d with link := some link }.id = d.id := fun _ => rfl
    rw [Registry.find?_modify_self s.registry hid, hc]
    rfl
  | cache cache => exact ⟨c, hc, .refl c⟩

/-- **Work extends its connection.** -/
theorem Work.connection (h : Work id s t) {c : Connection β}
    (hc : s.registry.find? id = some c) : ∃ d, t.registry.find? id = some d ∧ c.Extends d := by
  induction h with
  | refl => exact ⟨c, hc, .refl c⟩
  | tail _ hstep ih =>
    obtain ⟨d, hd, hcd⟩ := ih
    obtain ⟨e, he, hde⟩ := hstep.connection hd
    exact ⟨e, he, hcd.trans hde⟩

/-- The trace grows by events that tell of no error. -/
theorem WorkStep.trace (h : WorkStep id s t) :
    ∃ events, t.trace = s.trace ++ events ∧ ∀ event ∈ events, ¬event.TellsError := by
  cases h with
  | log line hline =>
    rw [pushLog]
    split
    · rename_i c _
      refine ⟨c.lineEvents line, rfl, fun event hevent => ?_⟩
      rw [Connection.mem_lineEvents hevent]
      exact hline
    · exact ⟨[], (List.append_nil _).symm, fun _ hevent => absurd hevent List.not_mem_nil⟩
  | speak gateway event hevent =>
    refine ⟨[event], rfl, fun e he => ?_⟩
    obtain rfl := List.mem_singleton.mp he
    cases hevent <;> exact fun h => h
  | link link => exact ⟨[], (List.append_nil _).symm, fun _ he => absurd he List.not_mem_nil⟩
  | cache cache => exact ⟨[], (List.append_nil _).symm, fun _ he => absurd he List.not_mem_nil⟩

/-- **Work tells of no error.** -/
theorem Work.trace (h : Work id s t) :
    ∃ events, t.trace = s.trace ++ events ∧ ∀ event ∈ events, ¬event.TellsError := by
  induction h with
  | refl => exact ⟨[], (List.append_nil _).symm, fun _ he => absurd he List.not_mem_nil⟩
  | tail _ hstep ih =>
    obtain ⟨events, htrace, hfine⟩ := ih
    obtain ⟨events', htrace', hfine'⟩ := hstep.trace
    refine ⟨events ++ events', by rw [htrace', htrace, List.append_assoc], fun event hevent => ?_⟩
    rcases List.mem_append.mp hevent with hevent | hevent
    · exact hfine event hevent
    · exact hfine' event hevent

/-! ## The operations take no other steps -/

theorem work_log (s : Session γ β σ) (id : ConnectionId) {line : String} (h : ¬IsErrorLine line) :
    Work id s (s.pushLog id line) := .single (.log line h)

/-- No line of a statement is an error line. -/
theorem not_isErrorLine_queryLine (sql : String) : ¬IsErrorLine (queryLine sql) :=
  not_isErrorLine (head?_toList_append (p := "Query: ") rfl sql) (by decide)

theorem not_isErrorLine_paramsLine (params : Params) : ¬IsErrorLine (paramsLine params) :=
  not_isErrorLine (head?_toList_append (head?_toList_append (p := "(Query params: ") rfl _) ")")
    (by decide)

theorem not_isErrorLine_cacheReadLine (key : String) : ¬IsErrorLine (cacheReadLine key) :=
  not_isErrorLine (head?_toList_append (head?_toList_append (p := "(Cache read: ") rfl key) ")")
    (by decide)

theorem not_isErrorLine_cacheWriteLine (key : String) : ¬IsErrorLine (cacheWriteLine key) :=
  not_isErrorLine (head?_toList_append (head?_toList_append (p := "(Cache write: ") rfl key) ")")
    (by decide)

section Caches

variable [Store σ]

theorem work_lookUp (s : Session γ β σ) (sql : String) (params : Params) :
    Work id s (s.lookUp id sql params).2 := by
  rw [lookUp]
  split
  · exact .refl
  · dsimp only
    split
    · exact .single (.cache _)
    · split
      · exact .single (.cache _)
      · exact .single (.cache _)

theorem work_keep (s : Session γ β σ) (key : String) (rows : List Json) :
    Work id s (s.keep key rows).2 := by
  rw [keep]
  split
  · exact .refl
  · exact .single (.cache _)

end Caches

section Links

variable [Gateway γ β]

theorem work_openLink (s : Session γ β σ) (c : Connection β) : Work c.id s (s.openLink c).2 := by
  rw [openLink]
  split
  · exact .refl
  · have hask : Work c.id s _ := .single (.speak (Gateway.connect s.gateway c.config).2
      (.connect c.id c.config.host c.config.database) (.connect _ _))
    dsimp only
    split
    · exact hask.tail (.link _)
    · exact hask

theorem work_throughLink {α : Type} (s : Session γ β σ) {event : Event}
    (hevent : IsOperation id event) (op : γ → β → Except Error α × β × γ) :
    Work id s (s.throughLink id event op).2 := by
  rw [throughLink]
  split
  · exact .refl
  · rename_i c hc
    have hopen := work_openLink s c
    rw [Registry.id_of_find? hc] at hopen
    split
    · rename_i h
      rwa [h] at hopen
    · rename_i link t h
      rw [h] at hopen
      exact (hopen.tail (.speak (op t.gateway link).2.2 event hevent)).tail (.link _)

variable [Store σ]

theorem work_send (s : Session γ β σ) (sql : String) (params : Params) (reading : Reading)
    (key : Option String) : Work id s (s.send id sql params reading key).2 := by
  have hfetch : Work id s _ := work_throughLink s (.fetch sql params) fun g link =>
    Gateway.fetch g link sql params
  have hexecute : Work id s _ := work_throughLink s (.execute sql params) fun g link =>
    Gateway.execute g link sql params
  rw [send]
  split
  · split
    · rename_i h
      rwa [h] at hfetch
    · rename_i rows t h
      rw [h] at hfetch
      dsimp only
      split
      · exact hfetch
      · rename_i key
        have hkeep := (hfetch.trans (work_log t id (not_isErrorLine_cacheWriteLine key))).trans
          (work_keep (t.pushLog id (cacheWriteLine key)) key (rows.map Json.obj))
        split
        · rename_i h
          rwa [h] at hkeep
        · rename_i h
          rwa [h] at hkeep
  · split
    · rename_i h
      rwa [h] at hexecute
    · rename_i h
      rwa [h] at hexecute
  · split
    · rename_i h
      rwa [h] at hexecute
    · rename_i h
      rwa [h] at hexecute

theorem work_answer (s : Session γ β σ) (sql : String) (params : Params) (reading : Reading)
    (useCache : Bool) : Work id s (s.answer id sql params reading useCache).2 := by
  have hlook : Work id s _ := work_lookUp s sql params
  rw [answer]
  split
  · split
    · rename_i h
      rwa [h] at hlook
    · rename_i h
      rw [h] at hlook
      exact hlook.trans (work_log _ id (not_isErrorLine_cacheReadLine _))
    · rename_i h
      rw [h] at hlook
      exact hlook.trans (work_send _ sql params reading _)
  · exact work_send s sql params reading none

/-- **A statement takes no other steps**, whatever the gateway and the store answer. -/
theorem work_dispatch (s : Session γ β σ) (sql : String) (params : Params) (reading : Reading)
    (useCache : Bool) : Work id s (s.dispatch id sql params reading useCache).2 := by
  have hquery := work_log s id (not_isErrorLine_queryLine sql)
  rw [dispatch]
  split
  · exact .refl
  · dsimp only
    split
    · exact hquery.trans (work_answer _ sql params reading useCache)
    · split
      · exact hquery
      · exact (hquery.trans (work_log _ id (not_isErrorLine_paramsLine params))).trans
          (work_answer _ sql params reading useCache)

end Links

end Session

end SqlShorthand
