import SqlShorthand.Proofs.Registry.Ids
import SqlShorthand.Proofs.Session.Opening

/-!
# Proofs/Session/Registering — which id a connection gets

The registry of a session stays numbered (`Proofs/Registry/Ids`) over every run: registering keeps
it so, and whatever else is done leaves the ids and the last choice as they are
(`Registry.Confined`).  So at any time a connection that asks for no id gets the least that is free,
however the ids before it were asked for or chosen.
-/

namespace SqlShorthand

/-- A registry stays numbered where the ids and the last choice stay. -/
theorem Registry.Confined.numbered {β : Type} {id : ConnectionId} {r r' : Registry β}
    (h : Confined id r r') (hr : r.Numbered) : r'.Numbered where
  ascending := hr.ascending.of_ids h.ids
  gapless := fun id hpos hle => by
    rw [contains_congr h.ids]
    exact hr.gapless id hpos (h.lastAuto ▸ hle)

/-- A configuration is incomplete if host, database or user is blank. -/
theorem ConnectionConfig.isComplete_eq_false_iff (config : ConnectionConfig) :
    config.isComplete = false ↔ Text.allBlank config.host = true ∨
      Text.allBlank config.database = true ∨ Text.allBlank config.user = true := by
  rw [isComplete, Bool.not_eq_false', Bool.or_eq_true, Bool.or_eq_true, or_assoc]

namespace Session

variable {γ β σ : Type} {s : Session γ β σ} {config : ConnectionConfig}

/-! ## One registration -/

/-- **What registering does** to a session. -/
structure Registers (s : Session γ β σ) (config : ConnectionConfig) : Prop where
  /-- It fails exactly if host, database or user is blank, or the id that is asked for is taken… -/
  fails_iff : (∃ e, (s.register config).1 = .error e) ↔
    (Text.allBlank config.host = true ∨ Text.allBlank config.database = true ∨
      Text.allBlank config.user = true) ∨
    ∃ id, config.id = some id ∧ s.registry.contains id = true
  /-- …and changes nothing then. -/
  unchanged : ∀ e, (s.register config).1 = .error e → (s.register config).2 = s
  /-- An id that is asked for is given if it is free… -/
  asked : ∀ id given, config.id = some id → (s.register config).1 = .ok given →
    given = id ∧ s.registry.contains id = false
  /-- …and else the one that counting up from the last choice stops at: the least free one, while
  there is one. -/
  chosen : ∀ given, config.id = none → (s.register config).1 = .ok given →
    (∃ id, 0 < id ∧ s.registry.contains id = false) →
      s.registry.Search (s.registry.lastAuto.toNat + 1) given.toNat ∧ s.registry.IsLeastFree given
  /-- The connection is registered then, and every other one is as it was. -/
  others : ∀ given, (s.register config).1 = .ok given →
    (s.register config).2.registry.contains given = true ∧
      ∀ id, id ≠ given → (s.register config).2.registry.find? id = s.registry.find? id

/-- A session refuses what its registry refuses… -/
theorem register_error_iff {e : Error} :
    (s.register config).1 = .error e ↔ s.registry.register config = .error e := by
  rw [register]
  cases s.registry.register config with
  | ok given => exact iff_of_false (by simp) (by simp)
  | error e' => simp

/-- …and has the registry that its registry gives. -/
theorem registry_of_register {given : ConnectionId} (h : (s.register config).1 = .ok given) :
    ∃ events, s.registry.register config = .ok (given, events, (s.register config).2.registry) := by
  rw [register] at h ⊢
  cases hregister : s.registry.register config with
  | ok result =>
    rw [hregister] at h
    obtain rfl := Except.ok.inj h
    exact ⟨result.2.1, rfl⟩
  | error e =>
    rw [hregister] at h
    cases h

/-- **Registering in a numbered registry.** -/
theorem registers (hr : s.registry.Numbered) (config : ConnectionConfig) : Registers s config where
  fails_iff := by
    simp only [register_error_iff, Registry.register_fails_iff,
      ConnectionConfig.isComplete_eq_false_iff]
  unchanged := fun e h => by rw [register, register_error_iff.mp h]
  asked := fun id given hid h => by
    obtain ⟨events, hregister⟩ := registry_of_register h
    exact Registry.given_of_asked hregister hid
  chosen := fun given hid h hfree => by
    obtain ⟨events, hregister⟩ := registry_of_register h
    exact hr.gapless.given_of_chosen hregister hid hfree
  others := fun given h => by
    obtain ⟨events, hregister⟩ := registry_of_register h
    exact hr.ascending.others_of_register hregister

/-! ## Runs -/

section Runs

variable [Gateway γ β] [Store σ]

/-- **One move keeps the registry numbered.** -/
theorem numbered_moved (hr : s.registry.Numbered) (move : Move γ σ) :
    (s.moved move).registry.Numbered := by
  cases move with
  | exec call =>
    obtain ⟨id, hconfined⟩ := confined_exec s call
    exact hconfined.numbered hr
  | register config =>
    rw [moved]
    cases h : (s.register config).1 with
    | ok given =>
      obtain ⟨events, hregister⟩ := registry_of_register h
      exact hr.register hregister
    | error e => rwa [(registers hr config).unchanged e h]
  | setKey id table key => exact (confined_setKey s id table key).numbered hr
  | setPaging | setCache | setGateway => exact hr

/-- **A run keeps the registry numbered.** -/
theorem numbered_ran (hr : s.registry.Numbered) (moves : List (Move γ σ)) :
    (s.ran moves).registry.Numbered := by
  induction moves generalizing s with
  | nil => exact hr
  | cons move moves ih => exact ih (numbered_moved hr move)

/-- **Ids are given without gaps.**  After every run of a session that starts with an empty
registry, each id up to the last that was chosen is registered.  Counting up from there stops at an
id unless all are taken, and stops at the least that is free: a connection that asks for none gets
it, one that asks for a free one gets that.  One that is refused leaves the session as it was, and
one that is not leaves the other connections. -/
theorem ids_given_without_gaps (s : Session γ β σ) (hempty : s.registry = {})
    (moves : List (Move γ σ)) :
    (s.ran moves).registry.Gapless ∧
    ((∃ m, (s.ran moves).registry.Search ((s.ran moves).registry.lastAuto.toNat + 1) m) ↔
      ∃ id, 0 < id ∧ (s.ran moves).registry.contains id = false) ∧
    ∀ config, Registers (s.ran moves) config := by
  have hr : (s.ran moves).registry.Numbered := by
    refine numbered_ran ?_ moves
    rw [hempty]
    exact Registry.numbered_empty
  exact ⟨hr.gapless, hr.gapless.exists_search_iff, registers hr⟩

/-- After id 2 is asked for, two connections that ask for none get 1 and 3; the count passes 2, and
asking for it again is refused. -/
theorem ids_given_without_gaps_two :
    let config : ConnectionConfig := { host := "h", database := "d", user := "u", password := "" }
    let s : Session Reluctant Unit MemoryStore := { gateway := ⟨0⟩ }
    let moves : List (Move Reluctant MemoryStore) :=
      [.register { config with id := some 2 }, .register config]
    (s.ran moves).registry.ids = [1, 2] ∧ (s.ran moves).registry.IsLeastFree 3 ∧
      ((s.ran moves).register config).1 = .ok 3 ∧
      ((s.ran moves).register { config with id := some 2 }).2 = s.ran moves := by
  intro config s moves
  obtain ⟨-, -, hregisters⟩ := ids_given_without_gaps s rfl moves
  have hok : ((s.ran moves).register config).1 = .ok 3 := by decide +kernel
  have hfree : ∃ id, 0 < id ∧ (s.ran moves).registry.contains id = false :=
    ⟨3, by decide, by decide +kernel⟩
  have htaken : ((s.ran moves).register { config with id := some 2 }).1
      = .error (.duplicateConnection 2) := by decide +kernel
  exact ⟨by decide +kernel, ((hregisters config).chosen 3 rfl hok hfree).2, hok,
    (hregisters _).unchanged _ htaken⟩

end Runs

end Session

end SqlShorthand
