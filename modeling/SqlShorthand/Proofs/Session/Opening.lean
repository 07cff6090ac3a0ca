import SqlShorthand.Proofs.Session.Contact

/-!
# Proofs/Session/Opening — a connection is opened once, and asked only while it is open

`Orderly` says it of a history of contacts: only what is closed is connected, and only what is open
is asked.  One call keeps this (`Exchange.orderly`), and so does a run (`orderly_history`), whatever
else is set in between: nothing closes a link, and a connection is registered without one
(`contacted_register`).  Of runs of any length `backends_contacted_in_order` reads off the rest.
-/

namespace SqlShorthand

/-! ## Histories in order -/

/-- A contact that fits the connections that are open: a closed one is connected, an open one
asked. -/
def Contact.Fits (isOpen : ConnectionId → Bool) : Contact → Prop
  | .connect id _ _ _ => isOpen id = false
  | .asked id _ => isOpen id = true

/-- **A history in order**, where these connections are open at its start. -/
def Orderly (isOpen : ConnectionId → Bool) : List Contact → Prop
  | [] => True
  | contact :: rest =>
    contact.Fits isOpen ∧ Orderly (fun id => isOpen id || contact.opens id) rest

/-- Only what is closed is opened. -/
theorem Contact.Fits.closed_of_opens {isOpen : ConnectionId → Bool} {contact : Contact}
    {id : ConnectionId} (h : contact.Fits isOpen) (hopens : contact.opens id = true) :
    isOpen id = false := by
  cases contact with
  | connect id' host database ok =>
    obtain ⟨-, hid⟩ := Bool.and_eq_true_iff.mp hopens
    exact eq_of_beq hid ▸ h
  | asked => cases hopens

/-- Histories in order follow one another. -/
theorem orderly_append {isOpen : ConnectionId → Bool} {history history' : List Contact} :
    Orderly isOpen (history ++ history') ↔
      Orderly isOpen history ∧ Orderly (fun id => isOpen id || opened id history) history' := by
  induction history generalizing isOpen with
  | nil => simp [Orderly]
  | cons contact rest ih =>
    simp only [List.cons_append, Orderly, ih, opened, List.any_cons, Bool.or_assoc, and_assoc]

/-- **In a history in order, a connection is opened once at most**, and never if it is open at the
start. -/
theorem Orderly.countP_opens_le {isOpen : ConnectionId → Bool} {history : List Contact}
    (h : Orderly isOpen history) (id : ConnectionId) :
    history.countP (·.opens id) + (isOpen id).toNat ≤ 1 := by
  induction history generalizing isOpen with
  | nil =>
    rw [List.countP_nil, Nat.zero_add]
    exact Bool.toNat_le _
  | cons contact rest ih =>
    obtain ⟨hfits, hrest⟩ := h
    have hle := ih hrest
    rw [List.countP_cons]
    cases hopens : contact.opens id with
    | true =>
      rw [hfits.closed_of_opens hopens]
      rw [hopens, Bool.or_true] at hle
      exact hle
    | false =>
      rw [hopens, Bool.or_false] at hle
      exact hle

/-! ## Registering -/

/-- A connection that is registered is closed, and stands before no other with its id. -/
theorem Registry.Ascending.isConnected_register {β : Type} {r r' : Registry β} (hr : r.Ascending)
    {config : ConnectionConfig} {given : ConnectionId} {events : List Event}
    (h : r.register config = .ok (given, events, r')) (id : ConnectionId) :
    r'.isConnected id = r.isConnected id := by
  rw [isConnected, hr.find?_register h, isConnected]
  cases r.find? id with
  | some c => rfl
  | none =>
    rw [Option.none_or]
    split
    · rw [Option.any_some, Connection.isConnected, fresh, Connection.pushLog_link]
      rfl
    · rfl

namespace Session

variable {γ β σ : Type} [Gateway γ β] {s : Session γ β σ}

/-- **One call keeps the order.** -/
theorem Exchange.orderly {call : Call} {seen : List Contact} (h : Exchange s call seen) :
    Orderly s.isConnected seen := by
  have hnamed : ∀ c, s.named? call = some c → s.isConnected c.id = c.isConnected := by
    intro c hc
    rw [named?] at hc
    split at hc
    · cases hc
    · rw [Registry.id_of_find? hc, isConnected_of_find? hc]
  cases h with
  | quiet => trivial
  | asked c request hc hopen => exact ⟨(hnamed c hc).trans hopen, trivial⟩
  | refused c logging e hc hclosed => exact ⟨(hnamed c hc).trans hclosed, trivial⟩
  | opened c logging link request hc hclosed =>
    refine ⟨(hnamed c hc).trans hclosed, ?_, trivial⟩
    simp [Contact.Fits, Contact.opens]

/-! ## Runs -/

section Runs

variable [Store σ]

/-- A move of a run: a call, something set from outside, or the gateway changing by itself. -/
inductive Move (γ σ : Type) where
  | exec (call : Call)
  | register (config : ConnectionConfig)
  | setKey (id : ConnectionId) (table key : String)
  | setPaging (paging : Paging)
  | setCache (cache : Option (Cache σ))
  | setGateway (gateway : γ)

/-- The session after a move. -/
def moved (s : Session γ β σ) : Move γ σ → Session γ β σ
  | .exec call => (s.exec call).2
  | .register config => (s.register config).2
  | .setKey id table key => (s.setKey id table key).2
  | .setPaging paging => { s with paging }
  | .setCache cache => { s with cache }
  | .setGateway gateway => { s with gateway }

/-- The session after a run. -/
def ran (s : Session γ β σ) (moves : List (Move γ σ)) : Session γ β σ := moves.foldl moved s

/-- The contacts of a move. -/
def moveContacts (s : Session γ β σ) : Move γ σ → List Contact
  | .exec call => s.contacts call
  | _ => []

/-- **The history of a run**: the contacts of its moves, the oldest first. -/
def history (s : Session γ β σ) : List (Move γ σ) → List Contact
  | [] => []
  | move :: moves => s.moveContacts move ++ (s.moved move).history moves

omit [Gateway γ β] [Store σ] in
/-- A connection is registered as closed. -/
theorem contacted_register (h : s.registry.Ascending) (config : ConnectionConfig) :
    Contacted s (s.register config).2 [] ∧ (s.register config).2.registry.Ascending := by
  rw [register]
  split
  · rename_i id events r' hregister
    refine ⟨contacted_nil rfl ?_ (h.isConnected_register hregister), h.register hregister⟩
    rw [Registry.events_of_register hregister]
    exact filter_isBackend_lineEvents _ _
  · exact ⟨.refl s, h⟩

/-- A call changes one connection at most, and registers none. -/
theorem confined_exec (s : Session γ β σ) (call : Call) :
    ∃ id, s.registry.Confined id (s.exec call).2.registry := by
  cases hparse : Command.parse call.command with
  | ok command => exact ⟨command.connection, (frame_exec s hparse).registry⟩
  | error e =>
    rw [exec, tokenize, hparse]
    exact ⟨0, .refl _⟩

omit [Gateway γ β] [Store σ] in
/-- So does setting a key. -/
theorem confined_setKey (s : Session γ β σ) (id : ConnectionId) (table key : String) :
    s.registry.Confined id (s.setKey id table key).2.registry := by
  rw [setKey]
  split
  · exact Registry.confined_modify s.registry id fun _ => rfl
  · exact .refl _

/-- **One move makes its contacts.** -/
theorem contacted_moved (h : s.registry.Ascending) (move : Move γ σ) :
    Contacted s (s.moved move) (s.moveContacts move) ∧ (s.moved move).registry.Ascending := by
  cases move with
  | exec call =>
    obtain ⟨id, hconfined⟩ := confined_exec s call
    exact ⟨contacted_exec s call, h.of_ids hconfined.ids⟩
  | register config => exact contacted_register h config
  | setKey id table key =>
    refine ⟨?_, h.of_ids (confined_setKey s id table key).ids⟩
    rw [moved, setKey]
    split
    · exact contacted_of_eq rfl fun id' =>
        Registry.isConnected_modify s.registry id id' (fun _ => rfl) fun _ => rfl
    · exact .refl s
  | setPaging | setCache | setGateway =>
    exact ⟨contacted_of_eq rfl fun _ => rfl, h⟩

/-- **One move keeps the order.** -/
theorem orderly_moveContacts (s : Session γ β σ) (move : Move γ σ) :
    Orderly s.isConnected (s.moveContacts move) := by
  cases move with
  | exec call => exact (exchange_contacts s call).orderly
  | _ => trivial

/-- **A run makes its contacts.** -/
theorem contacted_ran (h : s.registry.Ascending) (moves : List (Move γ σ)) :
    Contacted s (s.ran moves) (s.history moves) := by
  induction moves generalizing s with
  | nil => exact .refl s
  | cons move moves ih =>
    obtain ⟨hmove, hafter⟩ := contacted_moved h move
    exact hmove.trans (ih hafter)

/-- **A run keeps the order.** -/
theorem orderly_history (h : s.registry.Ascending) (moves : List (Move γ σ)) :
    Orderly s.isConnected (s.history moves) := by
  induction moves generalizing s with
  | nil => trivial
  | cons move moves ih =>
    obtain ⟨hmove, hafter⟩ := contacted_moved h move
    have hrest := ih hafter
    rw [funext hmove.connected] at hrest
    exact orderly_append.mpr ⟨orderly_moveContacts s move, hrest⟩

/-! ## Every call and every run -/

/-- **One call contacts its backend in order.** -/
structure ContactsOnce (s : Session γ β σ) (call : Call) : Prop where
  /-- It connects at most once, and makes at most one request, through an open link. -/
  exchange : Exchange s call (s.contacts call)
  /-- These are the events that reached a backend, and the connections that were opened. -/
  contacted : Contacted s (s.exec call).2 (s.contacts call)

/-- **A run contacts its backends in order.** -/
structure ContactsInOrder (s : Session γ β σ) (moves : List (Move γ σ)) : Prop where
  /-- The history tells of all the events that reached a backend. -/
  events : (s.ran moves).backendEvents = s.backendEvents ++ (s.history moves).map Contact.event
  /-- A connection is opened at most once… -/
  once : ∀ id, (s.history moves).countP (·.opens id) ≤ 1
  /-- …it is open exactly if it was opened… -/
  connected : ∀ id, (s.ran moves).isConnected id = true ↔
    ∃ contact ∈ s.history moves, contact.opens id = true
  /-- …and it is asked only after that. -/
  first : ∀ id request before after,
    s.history moves = before ++ .asked id request :: after →
      ∃ contact ∈ before, contact.opens id = true

/-- A run of a session without connections. -/
theorem contactsInOrder (hempty : s.registry.connections = []) (moves : List (Move γ σ)) :
    ContactsInOrder s moves := by
  have hascending : s.registry.Ascending := Registry.ascending_of_eq_nil hempty
  have hclosed : s.isConnected = fun _ => false := by
    funext id
    rw [isConnected, Registry.isConnected, Registry.find?, hempty]
    rfl
  have hcontacted := contacted_ran hascending moves
  have horderly := orderly_history hascending moves
  rw [hclosed] at horderly
  refine ⟨hcontacted.trace, horderly.countP_opens_le, fun id => ?_,
    fun id request before after hsplit => ?_⟩
  · rw [hcontacted.connected, hclosed, Bool.false_or, opened, List.any_eq_true]
  · rw [hsplit] at horderly
    have hfits : (false || opened id before) = true := (orderly_append.mp horderly).2.1
    rwa [Bool.false_or, opened, List.any_eq_true] at hfits

/-- **At most one connect and one request a call, at most one link a connection.**  Whatever gateway
and store answer, a call tries to connect at most once, and only if its connection is closed, and
then makes at most one request, and only if it is open.  So in every run of a session that starts
without connections, a connection is opened at most once, is open exactly if it was opened, and is
asked only after that. -/
theorem backends_contacted_in_order :
    (∀ (s : Session γ β σ) (call : Call), ContactsOnce s call) ∧
    ∀ (s : Session γ β σ) (moves : List (Move γ σ)), s.registry.connections = [] →
      ContactsInOrder s moves :=
  ⟨fun s call => ⟨exchange_contacts s call, contacted_exec s call⟩,
    fun _ moves hempty => contactsInOrder hempty moves⟩

end Runs

/-- A gateway that refuses to connect a number of times. -/
structure Reluctant where
  refusals : Nat

instance : Gateway Reluctant Unit where
  connect g _ :=
    match g.refusals with
    | 0 => (.ok (), g)
    | n + 1 => (.error (.connection "refused"), ⟨n⟩)
  quote _ value := Literal.quote value
  fetch g link _ _ := (.ok [], link, g)
  execute g link _ _ := (.ok 0, link, g)
  lastInsertId g link := (.ok 0, link, g)
  transact g link _ := (.ok (), link, g)

/-- A first call that cannot connect, one that can, and a step of a transaction: the connection is
open, and was opened once. -/
theorem backends_contacted_in_order_reluctant :
    let config : ConnectionConfig := { host := "h", database := "d", user := "u", password := "" }
    let s : Session Reluctant Unit MemoryStore := { gateway := ⟨1⟩ }
    let moves : List (Move Reluctant MemoryStore) :=
      [.register config, .exec { command := "users" }, .exec { command := "users" },
        .exec { command := ":commit" }]
    (s.ran moves).backendEvents
        = [.connect 1 "h" "d", .connect 1 "h" "d", .fetch 1 "SELECT * FROM users" .none,
            .transaction 1 .commit] ∧
      (s.ran moves).isConnected 1 = true ∧ (s.history moves).countP (·.opens 1) = 1 := by
  intro config s moves
  have hhistory : s.history moves
      = [.connect 1 "h" "d" false, .connect 1 "h" "d" true,
          .asked 1 (.statement { sql := "SELECT * FROM users", params := .none, reading := .rows }),
          .asked 1 (.transaction .commit)] := by decide +kernel
  have horder := backends_contacted_in_order.2 s moves rfl
  have hevents := horder.events
  have hconnected := horder.connected 1
  rw [hhistory] at hevents hconnected ⊢
  exact ⟨hevents, hconnected.mpr ⟨.connect 1 "h" "d" true, by simp, rfl⟩, rfl⟩

end Session

end SqlShorthand
