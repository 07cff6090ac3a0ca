import SqlShorthand.Registry

/-!
# Proofs/Registry — looking up a connection after a change

A session changes its connections through `Registry.modify` alone, with changes that keep the id.
So a look-up after a change is settled by two facts: the changed connection is the old one under the
change (`find?_modify_self`), and every other one is as it was (`find?_modify_of_ne`).

A registered connection goes among ascending ids, behind any that has its own, so it is found only
where nothing was (`find?_insertSorted`, `Ascending.find?_register`).
-/

namespace SqlShorthand.Registry

variable {β : Type} {id id' : ConnectionId} {f : Connection β → Connection β} {c : Connection β}

theorem id_of_find? {r : Registry β} (h : r.find? id = some c) : c.id = id := by
  have := List.find?_some h
  simpa using this

theorem contains_eq_true {r : Registry β} (h : r.find? id = some c) : r.contains id = true := by
  rw [contains, h, Option.isSome_some]

theorem contains_eq_false {r : Registry β} (h : r.find? id = none) : r.contains id = false := by
  rw [contains, h, Option.isSome_none]

theorem contains_iff_mem_ids {r : Registry β} : r.contains id = true ↔ id ∈ r.ids := by
  rw [contains, find?, List.find?_isSome, ids, List.mem_map]
  exact exists_congr fun c => and_congr_right fun _ => beq_iff_eq

theorem find?_eq_none {r : Registry β} (h : r.contains id = false) : r.find? id = none := by
  rwa [contains, Option.isSome_eq_false_iff, Option.isNone_iff_eq_none] at h

/-- The same ids are registered where the ids are the same. -/
theorem contains_congr {r r' : Registry β} (h : r'.ids = r.ids) (id : ConnectionId) :
    r'.contains id = r.contains id := by
  rw [Bool.eq_iff_iff, contains_iff_mem_ids, contains_iff_mem_ids, h]

/-- A look-up after a change finds what it found before, changed if its id is the one. -/
theorem find?_modify (r : Registry β) (id id' : ConnectionId) (hf : ∀ c, (f c).id = c.id) :
    (r.modify id f).find? id' = (r.find? id').map fun c => if c.id == id then f c else c := by
  have hid : ∀ c : Connection β, (if c.id == id then f c else c).id = c.id := by
    intro c
    split
    · exact hf c
    · rfl
  rw [find?, find?, modify, List.find?_map]
  refine congrArg (fun p => (r.connections.find? p).map _) (funext fun c => ?_)
  simp only [Function.comp_apply, hid]

theorem find?_modify_self (r : Registry β) (hf : ∀ c, (f c).id = c.id) :
    (r.modify id f).find? id = (r.find? id).map f := by
  rw [find?_modify r id id hf]
  cases h : r.find? id with
  | none => rfl
  | some c => simp [id_of_find? h]

theorem find?_modify_of_ne (r : Registry β) (hf : ∀ c, (f c).id = c.id) (h : id' ≠ id) :
    (r.modify id f).find? id' = r.find? id' := by
  rw [find?_modify r id id' hf]
  cases hc : r.find? id' with
  | none => rfl
  | some c => simp [id_of_find? hc, h]

/-! ## Adding a connection -/

theorem mem_insertSorted {l : List (Connection β)} {d : Connection β} (h : d ∈ insertSorted c l) :
    d = c ∨ d ∈ l := by
  induction l with
  | nil => exact .inl (List.mem_singleton.mp h)
  | cons e rest ih =>
    rw [insertSorted] at h
    split at h
    · exact List.mem_cons.mp h
    · rcases List.mem_cons.mp h with rfl | h
      · exact .inr List.mem_cons_self
      · exact (ih h).imp_right (List.mem_cons_of_mem e)

/-- Ascending ids stay ascending. -/
theorem pairwise_insertSorted {l : List (Connection β)} (h : l.Pairwise fun c d => c.id ≤ d.id) :
    (insertSorted c l).Pairwise fun c d => c.id ≤ d.id := by
  induction l with
  | nil => exact List.pairwise_singleton _ _
  | cons d rest ih =>
    obtain ⟨hfirst, hrest⟩ := List.pairwise_cons.mp h
    rw [insertSorted]
    split
    · rename_i hlt
      have hle : c.id ≤ d.id := UInt32.le_of_lt hlt
      refine List.pairwise_cons.mpr ⟨fun e he => ?_, h⟩
      rcases List.mem_cons.mp he with rfl | he
      · exact hle
      · exact UInt32.le_trans hle (hfirst e he)
    · rename_i hlt
      refine List.pairwise_cons.mpr ⟨fun e he => ?_, ih hrest⟩
      rcases mem_insertSorted he with rfl | he
      · exact UInt32.not_lt.mp hlt
      · exact hfirst e he

/-- **A look-up after a connection is added** finds what it found before, and else the new one. -/
theorem find?_insertSorted {l : List (Connection β)} (h : l.Pairwise fun c d => c.id ≤ d.id)
    (id : ConnectionId) :
    (insertSorted c l).find? (·.id == id)
      = (l.find? (·.id == id)).or (if c.id == id then some c else none) := by
  induction l with
  | nil =>
    rw [insertSorted, List.find?_cons]
    split <;> simp_all
  | cons d rest ih =>
    obtain ⟨hfirst, hrest⟩ := List.pairwise_cons.mp h
    rw [insertSorted]
    split
    · rename_i hlt
      -- The new id lies before all others, so whoever asks for it finds nobody else.
      have hnone : c.id = id → (d :: rest).find? (·.id == id) = none := by
        rintro rfl
        refine List.find?_eq_none.mpr fun e he heq => ?_
        have hde : d.id ≤ e.id := by
          rcases List.mem_cons.mp he with rfl | he
          · exact UInt32.le_refl _
          · exact hfirst e he
        rw [eq_of_beq heq] at hde
        exact UInt32.not_lt.mpr hde hlt
      rw [List.find?_cons]
      split
      · rename_i heq
        rw [hnone (eq_of_beq heq), heq]
        rfl
      · rename_i hne
        rw [hne]
        exact (Option.or_none).symm
    · rw [List.find?_cons, List.find?_cons]
      split
      · rfl
      · exact ih hrest

/-! ## Registering

A connection is registered under an id that it asks for, or one that is chosen for it; either way it
is added as it is when it is new. -/

/-- The ids of the connections ascend. -/
def Ascending (r : Registry β) : Prop := r.connections.Pairwise fun c d => c.id ≤ d.id

theorem ascending_of_eq_nil {r : Registry β} (h : r.connections = []) : r.Ascending := by
  rw [Ascending, h]
  exact .nil

theorem Ascending.of_ids {r r' : Registry β} (h : r.Ascending) (hids : r'.ids = r.ids) :
    r'.Ascending := by
  have hpairs : r.ids.Pairwise (· ≤ ·) := List.pairwise_map.mpr h
  rw [← hids] at hpairs
  exact List.pairwise_map.mp hpairs

/-- A connection as it is registered. -/
def fresh (id : ConnectionId) (config : ConnectionConfig) : Connection β :=
  ({ id, config } : Connection β).pushLog (registrationLine id config)

theorem id_fresh (id : ConnectionId) (config : ConnectionConfig) :
    (fresh id config : Connection β).id = id := by
  rw [fresh, Connection.pushLog]
  split <;> rfl

/-- **A look-up after a connection is added** finds what it found before, and else the new one. -/
theorem Ascending.find?_add {r : Registry β} (h : r.Ascending) (id : ConnectionId)
    (config : ConnectionConfig) (id' : ConnectionId) :
    (r.add id config).2.find? id'
      = (r.find? id').or (if id == id' then some (fresh id config) else none) := by
  have hinsert := find?_insertSorted (c := fresh id config) h id'
  rwa [id_fresh] at hinsert

/-- **What registering can come to**: it is refused, or a connection is added under the id that it
asks for, or under one that is chosen for it and remembered. -/
inductive Registering (r : Registry β) (config : ConnectionConfig) :
    Except Error (ConnectionId × List Event × Registry β) → Prop where
  | incomplete (h : config.isComplete = false) :
      Registering r config (.error (.settings incompleteMessage))
  | duplicate (id : ConnectionId) (hcomplete : config.isComplete = true)
      (hid : config.id = some id) (htaken : r.contains id = true) :
      Registering r config (.error (.duplicateConnection id))
  | asked (id : ConnectionId) (hcomplete : config.isComplete = true) (hid : config.id = some id)
      (hfree : r.contains id = false) : Registering r config (.ok (id, r.add id config))
  | chosen (hcomplete : config.isComplete = true) (hid : config.id = none) :
      Registering r config
        (.ok (r.nextAuto, { r with lastAuto := r.nextAuto }.add r.nextAuto config))

theorem registering_register (r : Registry β) (config : ConnectionConfig) :
    Registering r config (r.register config) := by
  rw [register]
  cases hcomplete : config.isComplete with
  | false => exact .incomplete hcomplete
  | true =>
    cases hid : config.id with
    | none => exact .chosen hcomplete hid
    | some id =>
      cases htaken : r.contains id with
      | true =>
        simp only [htaken]
        exact .duplicate id hcomplete hid htaken
      | false =>
        simp only [htaken]
        exact .asked id hcomplete hid htaken

section Registered

variable {r r' : Registry β} {config : ConnectionConfig} {given : ConnectionId}
  {events : List Event}

/-- A connection that was registered was added to the others. -/
theorem exists_add_of_register (h : r.register config = .ok (given, events, r')) :
    ∃ r₀ : Registry β, r₀.connections = r.connections ∧ r₀.add given config = (events, r') := by
  have hregister := registering_register r config
  rw [h] at hregister
  cases hregister with
  | asked => exact ⟨r, rfl, rfl⟩
  | chosen => exact ⟨{ r with lastAuto := r.nextAuto }, rfl, rfl⟩

theorem events_of_register (h : r.register config = .ok (given, events, r')) :
    events = ({ id := given, config } : Connection β).lineEvents (registrationLine given config) := by
  obtain ⟨r₀, -, hadd⟩ := exists_add_of_register h
  exact (congrArg Prod.fst hadd).symm

theorem Ascending.register (hr : r.Ascending) (h : r.register config = .ok (given, events, r')) :
    r'.Ascending := by
  obtain ⟨r₀, hr₀, hadd⟩ := exists_add_of_register h
  obtain rfl : (r₀.add given config).2 = r' := congrArg Prod.snd hadd
  have hascending : r₀.Ascending := by rwa [Ascending, hr₀]
  exact pairwise_insertSorted hascending

/-- **A look-up after a connection is registered** finds what it found before, and else the new
one. -/
theorem Ascending.find?_register (hr : r.Ascending)
    (h : r.register config = .ok (given, events, r')) (id : ConnectionId) :
    r'.find? id = (r.find? id).or (if given == id then some (fresh given config) else none) := by
  obtain ⟨r₀, hr₀, hadd⟩ := exists_add_of_register h
  obtain rfl : (r₀.add given config).2 = r' := congrArg Prod.snd hadd
  have hascending : r₀.Ascending := by rwa [Ascending, hr₀]
  rw [hascending.find?_add, find?, hr₀, find?]

end Registered

end SqlShorthand.Registry
