import SqlShorthand.Proofs.Registry.Ids

/-!
# Proofs/Registry/Clashes — ids that are gone before they are asked for

Connections are registered in turn, some under an id that they ask for, the others under the least
that is free.  So an id that is asked for once may be refused: it may have been given away to one
that asked for none.  When this is so can be told from the requests alone (`GivenAway`), and so can
be whether some order of them leads to it (`exists_perm_clash_iff`).

The reason is a count.  While `n` is free, every id that was chosen lies below it, for there is no
hole below a choice (`Gapless`).  So below `n` there are as many ids in use as requests for none or
for an id below `n` (`Assigned.countP_eq`), and `n` is chosen next when these are all the ids there
are below it (`Assigned.nextAuto_eq_iff`).  `Assigned` says that the requests so far decided what is
in use, and one more that is met keeps it so (`Assigned.register`).
-/

namespace SqlShorthand.Registry

variable {β : Type} {r r' : Registry β} {n m : ConnectionId} {given : List ConnectionId}
  {asked : List (Option ConnectionId)}

/-! ## Ids below another -/

/-- Whether an id lies below `n`, zero apart. -/
def isBelow (n id : ConnectionId) : Bool := 0 < id && id < n

/-- The ids below `n`. -/
def idsBelow (n : ConnectionId) : List ConnectionId :=
  (List.range' 1 (n.toNat - 1)).map UInt32.ofNat

theorem isBelow_iff {id : ConnectionId} : isBelow n id = true ↔ 0 < id ∧ id < n := by
  rw [isBelow, Bool.and_eq_true, decide_eq_true_iff, decide_eq_true_iff]

theorem length_idsBelow (n : ConnectionId) : (idsBelow n).length = n.toNat - 1 := by
  rw [idsBelow, List.length_map, List.length_range']

theorem nodup_idsBelow (n : ConnectionId) : (idsBelow n).Nodup := by
  have hn : n.toNat < UInt32.size := n.toNat_lt
  exact nodup_map_ofNat (by omega)

theorem mem_idsBelow {id : ConnectionId} : id ∈ idsBelow n ↔ isBelow n id = true := by
  have hn : n.toNat < UInt32.size := n.toNat_lt
  rw [isBelow_iff, UInt32.lt_iff_toNat_lt, UInt32.lt_iff_toNat_lt, idsBelow, List.mem_map]
  constructor
  · rintro ⟨k, hk, rfl⟩
    rw [List.mem_range'_1] at hk
    rw [UInt32.toNat_ofNat_of_lt' (by omega)]
    exact ⟨hk.1, by omega⟩
  · rintro ⟨hpos, hlt⟩
    exact ⟨id.toNat, List.mem_range'_1.mpr ⟨hpos, by omega⟩, UInt32.ofNat_toNat⟩

/-- **All ids below `n` are in use** if there are enough of them in use. -/
theorem forall_isBelow_iff (h : given.Nodup) :
    (∀ id, isBelow n id = true → id ∈ given) ↔ n.toNat ≤ given.countP (isBelow n) + 1 := by
  rw [List.countP_eq_length_filter]
  constructor
  · intro hall
    have hsubset : idsBelow n ⊆ given.filter (isBelow n) := fun id hid =>
      List.mem_filter.mpr ⟨hall id (mem_idsBelow.mp hid), mem_idsBelow.mp hid⟩
    have hle := (List.subperm_of_subset (nodup_idsBelow n) hsubset).length_le
    rw [length_idsBelow] at hle
    omega
  · intro hle id hid
    have hsubset : given.filter (isBelow n) ⊆ idsBelow n := fun id hid =>
      mem_idsBelow.mpr (List.of_mem_filter hid)
    have hperm : (given.filter (isBelow n)).Perm (idsBelow n) := by
      refine (List.subperm_of_subset (h.filter _) hsubset).perm_of_length_le ?_
      rw [length_idsBelow]
      omega
    exact List.mem_of_mem_filter (hperm.mem_iff.mpr (mem_idsBelow.mpr hid))

/-- Few ids leave one free. -/
theorem exists_notMem (h : given.Nodup) (hfew : given.length + 2 < UInt32.size) :
    ∃ id, 0 < id ∧ id ∉ given := by
  by_contra hall
  push Not at hall
  have hcount := (forall_isBelow_iff (n := .ofNat (given.length + 2)) h).mp fun id hid =>
    hall id (isBelow_iff.mp hid).1
  rw [UInt32.toNat_ofNat_of_lt' hfew] at hcount
  have hle := List.countP_le_length (p := isBelow (.ofNat (given.length + 2))) (l := given)
  omega

/-! ## Requests -/

/-- Where a list with one more element can be split at `a`. -/
theorem exists_split_append_singleton {α : Type} {xs : List α} {x a : α} {P : List α → Prop} :
    (∃ before after, xs ++ [x] = before ++ a :: after ∧ P before) ↔
      (∃ before after, xs = before ++ a :: after ∧ P before) ∨ x = a ∧ P xs := by
  constructor
  · rintro ⟨before, after, heq, hp⟩
    rcases List.eq_nil_or_concat after with rfl | ⟨after, y, rfl⟩
    · obtain ⟨rfl, hlast⟩ := List.append_inj' heq rfl
      exact .inr ⟨List.head_eq_of_cons_eq hlast, hp⟩
    · rw [List.concat_eq_append, ← List.cons_append, ← List.append_assoc] at heq
      exact .inl ⟨before, after, (List.append_inj' heq rfl).1, hp⟩
  · rintro (⟨before, after, rfl, hp⟩ | ⟨rfl, hp⟩)
    · exact ⟨before, after ++ [x], by rw [List.append_assoc, List.cons_append], hp⟩
    · exact ⟨xs, [], rfl, hp⟩

/-- Whether a request is for no id, or for one below `n`. -/
def asksBelow (n : ConnectionId) (request : Option ConnectionId) : Bool := request.all (isBelow n)

/-- **An id is given away**: one request is for none, and up to it there are `n` that are for none
or for an id below `n`. -/
def GivenAway (asked : List (Option ConnectionId)) (n : ConnectionId) : Prop :=
  0 < n ∧ ∃ before after, asked = before ++ none :: after ∧
    n.toNat ≤ before.countP (asksBelow n) + 1

theorem not_givenAway_nil (n : ConnectionId) : ¬GivenAway [] n := by
  rintro ⟨-, before, after, h, -⟩
  simp at h

/-- The last request gives an id away if it is for none. -/
theorem givenAway_append_singleton (asked : List (Option ConnectionId))
    (request : Option ConnectionId) (n : ConnectionId) :
    GivenAway (asked ++ [request]) n ↔ GivenAway asked n ∨
      request = none ∧ 0 < n ∧ n.toNat ≤ asked.countP (asksBelow n) + 1 := by
  rw [GivenAway, exists_split_append_singleton, and_or_left, GivenAway]
  exact or_congr_right and_left_comm

/-- **An id clashes**: it is given away before it is asked for. -/
def Clash (asked : List (Option ConnectionId)) (n : ConnectionId) : Prop :=
  ∃ before after, asked = before ++ some n :: after ∧ GivenAway before n

theorem not_clash_nil (n : ConnectionId) : ¬Clash [] n := by
  rintro ⟨before, after, h, -⟩
  simp at h

theorem clash_append_singleton (asked : List (Option ConnectionId))
    (request : Option ConnectionId) (n : ConnectionId) :
    Clash (asked ++ [request]) n ↔ Clash asked n ∨ request = some n ∧ GivenAway asked n :=
  exists_split_append_singleton

theorem Clash.append (h : Clash asked n) (rest : List (Option ConnectionId)) :
    Clash (asked ++ rest) n := by
  obtain ⟨before, after, rfl, haway⟩ := h
  exact ⟨before, after ++ rest, by rw [List.append_assoc, List.cons_append], haway⟩

/-- Requests that are for none or for an id below `n` may come first, one that is for none the last
of them, and `n` after them. -/
theorem exists_perm_clash (hpos : 0 < n) (hnone : none ∈ asked) (hasked : some n ∈ asked)
    (hle : n.toNat ≤ asked.countP (asksBelow n)) :
    ∃ asked', asked'.Perm asked ∧ Clash asked' n := by
  have hself : (!asksBelow n (some n)) = true := by simp [asksBelow, isBelow]
  obtain ⟨low, low', hlow⟩ := List.append_of_mem
    (List.mem_filter (p := asksBelow n).mpr ⟨hnone, rfl⟩)
  obtain ⟨high, high', hhigh⟩ := List.append_of_mem
    (List.mem_filter (p := fun request => !asksBelow n request).mpr ⟨hasked, hself⟩)
  have hcount : (low ++ low').countP (asksBelow n) + 1 = asked.countP (asksBelow n) := by
    have hfilter : asked.countP (asksBelow n)
        = (asked.filter (asksBelow n)).countP (asksBelow n) := by simp [List.countP_filter]
    rw [hfilter, hlow, List.perm_middle.countP_eq, List.countP_cons_of_pos rfl]
  refine ⟨(low ++ low') ++ none :: some n :: (high ++ high'), ?_,
    (low ++ low') ++ [none], high ++ high', by simp, hpos, low ++ low', [], rfl, hcount ▸ hle⟩
  calc
    List.Perm ((low ++ low') ++ none :: some n :: (high ++ high'))
        (none :: (low ++ low') ++ some n :: (high ++ high')) := List.perm_middle
    List.Perm _ ((low ++ none :: low') ++ (high ++ some n :: high')) :=
        List.perm_middle.symm.append List.perm_middle.symm
    List.Perm _ asked := by
        rw [← hlow, ← hhigh]
        exact List.filter_append_perm _ asked

/-- **Some order of the requests clashes** if one is for none, and for a positive `n` that is asked
for there are `n` that are for none or for an id below it. -/
theorem exists_perm_clash_iff (asked : List (Option ConnectionId)) :
    (∃ asked', asked'.Perm asked ∧ ∃ n, Clash asked' n) ↔
      none ∈ asked ∧ ∃ n, 0 < n ∧ some n ∈ asked ∧ n.toNat ≤ asked.countP (asksBelow n) := by
  constructor
  · rintro ⟨_, hperm, n, _, after, rfl, hpos, before, between, rfl, hle⟩
    refine ⟨hperm.mem_iff.mp (by simp), n, hpos, hperm.mem_iff.mp (by simp), ?_⟩
    rw [← hperm.countP_eq, List.countP_append, List.countP_append, List.countP_cons_of_pos rfl]
    omega
  · rintro ⟨hnone, n, hpos, hasked, hle⟩
    obtain ⟨asked', hperm, hclash⟩ := exists_perm_clash hpos hnone hasked hle
    exact ⟨asked', hperm, n, hclash⟩

/-! ## Ids that were given -/

/-- Whether a request was met by an id, where `last` is the last that was chosen. -/
def Meets (last : ConnectionId) : Option ConnectionId → ConnectionId → Prop
  | some n, id => id = n
  | none, id => 0 < id ∧ id ≤ last

theorem Meets.of_le {last last' id : ConnectionId} {request : Option ConnectionId}
    (h : Meets last request id) (hle : last ≤ last') : Meets last' request id := by
  cases request with
  | some n => exact h
  | none => exact ⟨h.1, UInt32.le_trans h.2 hle⟩

/-- **A registry after requests were met in turn** by these ids. -/
structure Assigned (asked : List (Option ConnectionId)) (given : List ConnectionId)
    (r : Registry β) : Prop where
  numbered : r.Numbered
  nodup : given.Nodup
  mem_iff : ∀ id, r.contains id = true ↔ id ∈ given
  meets : List.Forall₂ (Meets r.lastAuto) asked given
  /-- An id that nobody asked for is registered exactly if it was given away. -/
  taken_iff : ∀ n, some n ∉ asked → (r.contains n = true ↔ GivenAway asked n)

theorem IsLeastFree.eq (h : r.IsLeastFree n) (h' : r.IsLeastFree m) : n = m := by
  have hle : ∀ {k l : ConnectionId}, r.IsLeastFree k → r.IsLeastFree l → k ≤ l := by
    intro k l hk hl
    refine UInt32.not_lt.mp fun hlt => ?_
    cases (hk.least l hl.pos hlt).symm.trans hl.free
  exact UInt32.le_antisymm (hle h h') (hle h' h)

/-- An id that is chosen is no smaller than the last. -/
theorem Search.lastAuto_le_nextAuto {m : Nat} (h : Search r (r.lastAuto.toNat + 1) m) :
    r.lastAuto ≤ r.nextAuto := by
  rw [h.nextAuto_eq, UInt32.le_iff_toNat_le, UInt32.toNat_ofNat_of_lt' h.lt_size]
  exact Nat.le_of_succ_le h.le

theorem Ascending.contains_register {config : ConnectionConfig} {id : ConnectionId}
    {events : List Event} (hr : r.Ascending) (h : r.register config = .ok (id, events, r'))
    (n : ConnectionId) : r'.contains n = (r.contains n || id == n) := by
  rw [contains, hr.find?_register h, Option.isSome_or, contains]
  cases id == n <;> rfl

namespace Assigned

/-- **Below a free id there are as many in use as were asked for or chosen.** -/
theorem countP_eq (h : Assigned asked given r) (hn : 0 < n) (hfree : r.contains n = false) :
    asked.countP (asksBelow n) = given.countP (isBelow n) := by
  -- All that was chosen is at most the last choice, and so below `n`.
  have hlast : r.lastAuto < n := by
    refine UInt32.not_le.mp fun hle => ?_
    cases (h.numbered.gapless n hn hle).symm.trans hfree
  have hmeets := h.meets
  clear h
  induction hmeets with
  | nil => rfl
  | @cons request id asked given hmeet _ ih =>
    have hsame : asksBelow n request = isBelow n id := by
      cases request with
      | some k => rw [show id = k from hmeet]; rfl
      | none => exact (isBelow_iff.mpr ⟨hmeet.1, UInt32.lt_of_le_of_lt hmeet.2 hlast⟩).symm
    rw [List.countP_cons, List.countP_cons, ih, hsame]

/-- **When an id is chosen next.** -/
theorem nextAuto_eq_iff (h : Assigned asked given r) (hn : 0 < n) (hfree : r.contains n = false) :
    r.nextAuto = n ↔ n.toNat ≤ asked.countP (asksBelow n) + 1 := by
  obtain ⟨k, hk⟩ := h.numbered.gapless.exists_search_iff.mpr ⟨n, hn, hfree⟩
  have hleast := h.numbered.gapless.isLeastFree hk
  rw [h.countP_eq hn hfree, ← forall_isBelow_iff h.nodup]
  constructor
  · rintro rfl id hid
    obtain ⟨hpos, hlt⟩ := isBelow_iff.mp hid
    exact (h.mem_iff id).mp (hleast.least id hpos hlt)
  · intro hall
    refine hleast.eq ⟨hn, hfree, fun id hpos hlt => ?_⟩
    exact (h.mem_iff id).mpr (hall id (isBelow_iff.mpr ⟨hpos, hlt⟩))

theorem empty : Assigned [] [] ({} : Registry β) where
  numbered := numbered_empty
  nodup := .nil
  mem_iff := fun id => by simp [contains, find?]
  meets := .nil
  taken_iff := fun n _ => iff_of_false (by simp [contains, find?]) (not_givenAway_nil n)

/-- A request that is met by an id that was free, where it is said which ids are given away. -/
theorem append {request : Option ConnectionId} {id : ConnectionId} (h : Assigned asked given r)
    (hnumbered : r'.Numbered) (hlast : r.lastAuto ≤ r'.lastAuto)
    (hcontains : ∀ n, r'.contains n = (r.contains n || id == n))
    (hfree : r.contains id = false) (hmeets : Meets r'.lastAuto request id)
    (haway : ∀ n, some n ∉ asked → request ≠ some n →
      (GivenAway (asked ++ [request]) n ↔ r.contains n = true ∨ id = n)) :
    Assigned (asked ++ [request]) (given ++ [id]) r' where
  numbered := hnumbered
  nodup := by
    refine h.nodup.append (List.nodup_singleton id) (List.disjoint_singleton.mpr fun hid => ?_)
    cases ((h.mem_iff id).mpr hid).symm.trans hfree
  mem_iff := fun n => by
    rw [hcontains, Bool.or_eq_true, beq_iff_eq, h.mem_iff, List.mem_append, List.mem_singleton,
      eq_comm (a := id)]
  meets := List.rel_append (h.meets.imp fun _ _ hmeet => hmeet.of_le hlast) (.cons hmeets .nil)
  taken_iff := fun n hn => by
    rw [List.mem_append, List.mem_singleton, not_or] at hn
    rw [haway n hn.1 (Ne.symm hn.2), hcontains, Bool.or_eq_true, beq_iff_eq]

/-- While there are few, counting up stops. -/
theorem exists_search (h : Assigned asked given r) (hfew : given.length + 2 < UInt32.size) :
    ∃ m, Search r (r.lastAuto.toNat + 1) m := by
  obtain ⟨id, hpos, hid⟩ := exists_notMem h.nodup hfew
  refine h.numbered.gapless.exists_search_iff.mpr ⟨id, hpos, ?_⟩
  rwa [Bool.eq_false_iff, ne_eq, h.mem_iff]

/-- **One more request that is met.** -/
theorem register {config : ConnectionConfig} {id : ConnectionId} {events : List Event}
    (h : Assigned asked given r) (hfew : given.length + 2 < UInt32.size)
    (hregister : r.register config = .ok (id, events, r')) :
    Assigned (asked ++ [config.id]) (given ++ [id]) r' := by
  have hnumbered := h.numbered.register hregister
  have hcontains := h.numbered.ascending.contains_register hregister
  have hcases := registering_register r config
  rw [hregister] at hcases
  cases hcases with
  | asked _ _ hid hfree =>
    rw [hid]
    refine h.append hnumbered (UInt32.le_refl _) hcontains hfree rfl fun n hn hne => ?_
    have hother : id ≠ n := fun heq => hne (congrArg some heq)
    rw [givenAway_append_singleton, or_iff_left hother, h.taken_iff n hn, or_iff_left (by simp)]
  | chosen _ hid =>
    obtain ⟨m, hm⟩ := h.exists_search hfew
    have hleast := h.numbered.gapless.isLeastFree hm
    rw [hid]
    refine h.append hnumbered hm.lastAuto_le_nextAuto hcontains hleast.free
      ⟨hleast.pos, UInt32.le_refl _⟩ fun n hn _ => ?_
    rw [givenAway_append_singleton, ← h.taken_iff n hn]
    -- An id that is taken stays so; of the others, the one that is chosen becomes so.
    by_cases htaken : r.contains n = true
    · exact iff_of_true (.inl htaken) (.inl htaken)
    · rw [Bool.not_eq_true] at htaken
      refine or_congr_right ⟨fun ⟨_, hpos, hle⟩ => (h.nextAuto_eq_iff hpos htaken).mpr hle, ?_⟩
      rintro rfl
      exact ⟨rfl, hleast.pos, (h.nextAuto_eq_iff hleast.pos htaken).mp rfl⟩

end Assigned

end SqlShorthand.Registry
