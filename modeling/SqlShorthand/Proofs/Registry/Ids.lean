import Mathlib.Data.List.Nodup
import Mathlib.Data.List.Perm.Subperm
import SqlShorthand.Proofs.Registry

/-!
# Proofs/Registry/Ids — the id that is chosen is the least free one

An id is chosen by counting up from the last that was chosen, past all that are taken.  That this
finds the least free id, and not just the next one, rests on there being no hole below the last
choice (`Gapless`): every id up to it is registered.  And that the count never passes the largest id
while one is free rests on the same: a free id lies above the last choice, and stops the count
(`exists_search_iff`).

`Search` is that count without a bound on its steps, over numbers rather than ids, so that it is
stuck where the next number is no id.  A number of steps that is more than there are connections
suffices, for every step passes one (`Search.sub_le_length`), and so `nextAuto` finds what the count
finds (`Search.nextAuto_eq`).
-/

namespace SqlShorthand.Registry

variable {β : Type} {r r' : Registry β} {n m : Nat}

/-! ## Free ids -/

/-- **Every id up to the last that was chosen is registered.** -/
def Gapless (r : Registry β) : Prop := ∀ id, 0 < id → id ≤ r.lastAuto → r.contains id = true

/-- **The least id that is free**, zero apart. -/
structure IsLeastFree (r : Registry β) (id : ConnectionId) : Prop where
  pos : 0 < id
  free : r.contains id = false
  least : ∀ id', 0 < id' → id' < id → r.contains id' = true

/-! ## Counting up -/

/-- **Counting up to a free id**: from the candidate `n` to the one that is free, where every
number on the way is an id. -/
inductive Search (r : Registry β) : Nat → Nat → Prop where
  | free {n : Nat} (hid : n < UInt32.size) (hfree : r.contains (.ofNat n) = false) : Search r n n
  | taken {n m : Nat} (hid : n < UInt32.size) (htaken : r.contains (.ofNat n) = true)
      (h : Search r (n + 1) m) : Search r n m

theorem Search.le (h : Search r n m) : n ≤ m := by
  induction h with
  | free => exact Nat.le_refl _
  | taken _ _ _ ih => exact Nat.le_of_succ_le ih

theorem Search.lt_size (h : Search r n m) : m < UInt32.size := by
  induction h with
  | free hid _ => exact hid
  | taken _ _ _ ih => exact ih

/-- What the count stops at is free… -/
theorem Search.contains_eq_false (h : Search r n m) : r.contains (.ofNat m) = false := by
  induction h with
  | free _ hfree => exact hfree
  | taken _ _ _ ih => exact ih

/-- …and what it passes is taken. -/
theorem Search.contains_eq_true (h : Search r n m) {k : Nat} (hn : n ≤ k) (hm : k < m) :
    r.contains (.ofNat k) = true := by
  induction h with
  | free => omega
  | @taken n m hid htaken h ih =>
    rcases Nat.eq_or_lt_of_le hn with rfl | hlt
    · exact htaken
    · exact ih hlt hm

/-- **A free id stops the count**, at itself or before. -/
theorem exists_search {id : ConnectionId} (hfree : r.contains id = false) (hn : n ≤ id.toNat) :
    ∃ m, Search r n m := by
  have hid : id.toNat < UInt32.size := id.toNat_lt
  induction hsteps : id.toNat - n generalizing n with
  | zero =>
    obtain rfl : n = id.toNat := by omega
    exact ⟨id.toNat, .free hid (by rwa [UInt32.ofNat_toNat])⟩
  | succ steps ih =>
    cases htaken : r.contains (.ofNat n) with
    | false => exact ⟨n, .free (by omega) htaken⟩
    | true =>
      obtain ⟨m, hm⟩ := ih (n := n + 1) (by omega) (by omega)
      exact ⟨m, .taken (by omega) htaken hm⟩

/-! ## Enough steps -/

/-- Numbers that are ids are different ids. -/
theorem nodup_map_ofNat {k : Nat} (h : n + k ≤ UInt32.size) :
    ((List.range' n k).map UInt32.ofNat).Nodup := by
  refine List.Nodup.map_on ?_ List.nodup_range'
  intro i hi j hj heq
  rw [List.mem_range'_1] at hi hj
  have heq' := congrArg UInt32.toNat heq
  rwa [UInt32.toNat_ofNat_of_lt' (by omega), UInt32.toNat_ofNat_of_lt' (by omega)] at heq'

/-- **The count passes no more candidates than there are connections**: each has one of its own. -/
theorem Search.sub_le_length (h : Search r n m) : m - n ≤ r.connections.length := by
  have hnm := h.le
  have hlt := h.lt_size
  have hnodup : ((List.range' n (m - n)).map UInt32.ofNat).Nodup := nodup_map_ofNat (by omega)
  have hsubset : (List.range' n (m - n)).map UInt32.ofNat ⊆ r.ids := by
    intro id hid
    obtain ⟨k, hk, rfl⟩ := List.mem_map.mp hid
    rw [List.mem_range'_1] at hk
    exact contains_iff_mem_ids.mp (h.contains_eq_true hk.1 (by omega))
  have hle := (List.subperm_of_subset hnodup hsubset).length_le
  rwa [List.length_map, List.length_range', ids, List.length_map] at hle

/-- With enough steps, the bounded count stops where the unbounded one does. -/
theorem Search.freeFrom_eq (h : Search r n m) {tries : Nat} (htries : m - n < tries) :
    r.freeFrom tries (.ofNat n) = .ofNat m := by
  induction h generalizing tries with
  | free _ hfree =>
    obtain ⟨tries, rfl⟩ := Nat.exists_eq_succ_of_ne_zero (Nat.ne_zero_of_lt htries)
    rw [freeFrom, hfree]
    rfl
  | @taken n m _ htaken h ih =>
    have hle := h.le
    obtain ⟨tries, rfl⟩ := Nat.exists_eq_succ_of_ne_zero (Nat.ne_zero_of_lt htries)
    have hrest : r.freeFrom tries (.ofNat (n + 1)) = .ofNat m := ih (by omega)
    rw [freeFrom, if_pos htaken, ← hrest, UInt32.ofNat_add]
    rfl

/-- **The id that is chosen is the one that the count stops at.** -/
theorem Search.nextAuto_eq (h : Search r (r.lastAuto.toNat + 1) m) : r.nextAuto = .ofNat m := by
  have hsteps := h.sub_le_length
  rw [nextAuto, ← h.freeFrom_eq (Nat.lt_succ_of_le hsteps), UInt32.ofNat_add, UInt32.ofNat_toNat]
  rfl

/-! ## Without holes -/

/-- **Without holes, the count stops at the least free id.** -/
theorem Gapless.isLeastFree (hr : r.Gapless) (h : Search r (r.lastAuto.toNat + 1) m) :
    r.IsLeastFree r.nextAuto := by
  have hle := h.le
  have hm : (UInt32.ofNat m).toNat = m := UInt32.toNat_ofNat_of_lt' h.lt_size
  rw [h.nextAuto_eq]
  refine ⟨?_, h.contains_eq_false, fun id hpos hlt => ?_⟩
  · rw [UInt32.lt_iff_toNat_lt, hm]
    exact Nat.lt_of_lt_of_le (Nat.succ_pos _) hle
  · rw [UInt32.lt_iff_toNat_lt, hm] at hlt
    by_cases hlast : id ≤ r.lastAuto
    · exact hr id hpos hlast
    · rw [UInt32.le_iff_toNat_le] at hlast
      have htaken := h.contains_eq_true (k := id.toNat) (by omega) hlt
      rwa [UInt32.ofNat_toNat] at htaken

/-- **Without holes, the count stops exactly if an id is free.** -/
theorem Gapless.exists_search_iff (hr : r.Gapless) :
    (∃ m, Search r (r.lastAuto.toNat + 1) m) ↔ ∃ id, 0 < id ∧ r.contains id = false := by
  constructor
  · rintro ⟨m, hm⟩
    have hleast := hr.isLeastFree hm
    exact ⟨_, hleast.pos, hleast.free⟩
  · rintro ⟨id, hpos, hfree⟩
    refine exists_search hfree ?_
    by_contra hle
    have hlast : id ≤ r.lastAuto := UInt32.le_iff_toNat_le.mpr (by omega)
    rw [hr id hpos hlast] at hfree
    cases hfree

/-! ## Registering keeps it so -/

theorem Ascending.contains_add (h : r.Ascending) (id : ConnectionId) (config : ConnectionConfig)
    (id' : ConnectionId) :
    (r.add id config).2.contains id' = (r.contains id' || id == id') := by
  rw [contains, h.find?_add, contains]
  cases r.find? id' with
  | some c => rfl
  | none => cases id == id' <;> rfl

/-- A connection that is added takes no id away. -/
theorem Gapless.add (hr : r.Gapless) (hascending : r.Ascending) (id : ConnectionId)
    (config : ConnectionConfig) : (r.add id config).2.Gapless := by
  intro id' hpos hle
  rw [hascending.contains_add, hr id' hpos hle, Bool.true_or]

/-- A connection that is added under the id that is chosen leaves no hole: the ids below it are
taken, or all are. -/
theorem Gapless.addChosen (hr : r.Gapless) (hascending : r.Ascending) (config : ConnectionConfig) :
    ({ r with lastAuto := r.nextAuto }.add r.nextAuto config).2.Gapless := by
  have hascending' : Ascending { r with lastAuto := r.nextAuto } := hascending
  intro id hpos hle
  rw [hascending'.contains_add, Bool.or_eq_true, beq_iff_eq]
  by_cases hsome : ∃ id, 0 < id ∧ r.contains id = false
  · obtain ⟨m, hm⟩ := hr.exists_search_iff.mpr hsome
    rcases UInt32.lt_or_eq_of_le hle with hlt | rfl
    · exact .inl ((hr.isLeastFree hm).least id hpos hlt)
    · exact .inr rfl
  · exact .inl (Bool.of_not_eq_false fun hfree => hsome ⟨id, hpos, hfree⟩)

/-- **A registry as registering leaves it**: its ids ascend, without a hole up to the last choice. -/
structure Numbered (r : Registry β) : Prop where
  ascending : r.Ascending
  gapless : r.Gapless

theorem numbered_empty : Numbered ({} : Registry β) where
  ascending := ascending_of_eq_nil rfl
  gapless := fun _ hpos hle => absurd hpos (UInt32.not_lt.mpr hle)

/-- **Registering keeps a registry numbered.** -/
theorem Numbered.register {config : ConnectionConfig} {id : ConnectionId} {events : List Event}
    (hr : r.Numbered) (h : r.register config = .ok (id, events, r')) : r'.Numbered := by
  refine ⟨hr.ascending.register h, ?_⟩
  have hregister := registering_register r config
  rw [h] at hregister
  cases hregister with
  | asked => exact hr.gapless.add hr.ascending id config
  | chosen => exact hr.gapless.addChosen hr.ascending config

/-! ## The id that is given -/

section Given

variable {config : ConnectionConfig} {given : ConnectionId} {events : List Event}

/-- **Registering fails** if host, database or user is blank, or the id that is asked for taken. -/
theorem register_fails_iff :
    (∃ e, r.register config = .error e) ↔
      config.isComplete = false ∨ ∃ id, config.id = some id ∧ r.contains id = true := by
  generalize hresult : r.register config = result
  have hregister := registering_register r config
  rw [hresult] at hregister
  cases hregister with
  | incomplete h => exact iff_of_true ⟨_, rfl⟩ (.inl h)
  | duplicate id _ hid htaken => exact iff_of_true ⟨_, rfl⟩ (.inr ⟨id, hid, htaken⟩)
  | asked id hcomplete hid hfree => simp [hcomplete, hid, hfree]
  | chosen hcomplete hid => simp [hcomplete, hid]

/-- An id that is asked for is given if it is free… -/
theorem given_of_asked (h : r.register config = .ok (given, events, r')) {id : ConnectionId}
    (hid : config.id = some id) : given = id ∧ r.contains id = false := by
  have hregister := registering_register r config
  rw [h] at hregister
  cases hregister with
  | asked _ _ hasked hfree =>
    obtain rfl := Option.some.inj (hid.symm.trans hasked)
    exact ⟨rfl, hfree⟩
  | chosen _ hnone => rw [hid] at hnone; cases hnone

/-- …and else **the least free one**, where the count stops. -/
theorem Gapless.given_of_chosen (hr : r.Gapless)
    (h : r.register config = .ok (given, events, r')) (hid : config.id = none)
    (hfree : ∃ id, 0 < id ∧ r.contains id = false) :
    Search r (r.lastAuto.toNat + 1) given.toNat ∧ r.IsLeastFree given := by
  have hregister := registering_register r config
  rw [h] at hregister
  cases hregister with
  | asked _ _ hasked => rw [hid] at hasked; cases hasked
  | chosen =>
    obtain ⟨m, hm⟩ := hr.exists_search_iff.mpr hfree
    refine ⟨?_, hr.isLeastFree hm⟩
    rwa [hm.nextAuto_eq, UInt32.toNat_ofNat_of_lt' hm.lt_size]

/-- The connection is registered under the id that is given, and **the others are as before**. -/
theorem Ascending.others_of_register (hr : r.Ascending)
    (h : r.register config = .ok (given, events, r')) :
    r'.contains given = true ∧ ∀ id, id ≠ given → r'.find? id = r.find? id := by
  refine ⟨?_, fun id hne => ?_⟩
  · rw [contains, hr.find?_register h, beq_self_eq_true, if_pos rfl, Option.isSome_or,
      Option.isSome_some, Bool.or_true]
  · rw [hr.find?_register h, beq_false_of_ne (Ne.symm hne)]
    exact Option.or_none

end Given

end SqlShorthand.Registry
