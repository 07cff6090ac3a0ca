import Mathlib.Data.List.Nodup
import SqlShorthand.Record

/-!
# Proofs/Record — a record is a map from names to values

Looking a name up sees the field that was set last under it, and no other (`get?_insert`); so of two
records that are merged, the fields of the second win (`get?_merge`).

The names of a record stand in it once: setting a field keeps that (`nodup_names_insert`), and
records are made by setting fields (`nodup_names_ofList`).  A list of pairs in which names come once
is then read as it is (`get?_ofList`), for it is its own record (`ofList_of_nodup`).
-/

namespace SqlShorthand.Record

/-! ## One field -/

theorem lookup_cons_ite (m : String) (w : Value) (fields : List (String × Value)) (n : String) :
    ((m, w) :: fields).lookup n = if n = m then some w else fields.lookup n := by
  rw [List.lookup_cons]
  split
  · rename_i h
    rw [if_pos (eq_of_beq h)]
  · rename_i h
    rw [if_neg (beq_eq_false_iff_ne.mp h)]

theorem lookup_insertField (name : String) (v : Value) (fields : List (String × Value))
    (n : String) :
    (insertField name v fields).lookup n = if n = name then some v else fields.lookup n := by
  induction fields with
  | nil => rw [insertField, lookup_cons_ite]
  | cons f fields ih =>
    obtain ⟨m, w⟩ := f
    rw [insertField]
    split
    · rename_i hm
      obtain rfl := eq_of_beq hm
      rw [lookup_cons_ite, lookup_cons_ite]
      split <;> rfl
    · rename_i hm
      have hne : m ≠ name := fun heq => hm (beq_iff_eq.mpr heq)
      rw [lookup_cons_ite, lookup_cons_ite, ih]
      by_cases hn : n = m
      · rw [if_pos hn, if_pos hn, if_neg (hn ▸ hne)]
      · rw [if_neg hn, if_neg hn]

/-- **Looking up after setting a field.** -/
theorem get?_insert (r : Record) (name : String) (v : Value) (n : String) :
    (r.insert name v).get? n = if n = name then some v else r.get? n :=
  lookup_insertField name v r.fields n

theorem mem_fields_of_get? {r : Record} {n : String} {v : Value} (h : r.get? n = some v) :
    (n, v) ∈ r.fields := by
  obtain ⟨before, after, hfields, -⟩ := List.lookup_eq_some_iff.mp h
  rw [hfields]
  exact List.mem_append_right before List.mem_cons_self

theorem lookup_eq_none {fields : List (String × Value)} {n : String}
    (h : n ∉ fields.map (·.1)) : fields.lookup n = none :=
  List.lookup_eq_none_iff.mpr fun f hf => by
    rw [bne_iff_ne]
    rintro rfl
    exact h (List.mem_map_of_mem hf)

/-- A field of a record is what looking its name up gives. -/
theorem lookup_of_mem {fields : List (String × Value)} (hnames : (fields.map (·.1)).Nodup)
    {n : String} {v : Value} (h : (n, v) ∈ fields) : fields.lookup n = some v := by
  induction fields with
  | nil => cases h
  | cons f fields ih =>
    obtain ⟨m, w⟩ := f
    rw [List.map_cons, List.nodup_cons] at hnames
    rw [lookup_cons_ite]
    rcases List.mem_cons.mp h with heq | htail
    · cases heq
      rw [if_pos rfl]
    · have hne : n ≠ m := fun heq => hnames.1 (List.mem_map.mpr ⟨(n, v), htail, heq⟩)
      rw [if_neg hne, ih hnames.2 htail]

/-! ## Many fields -/

theorem merge_cons (r : Record) (name : String) (v : Value) (fields : List (String × Value)) :
    r.merge ⟨(name, v) :: fields⟩ = (r.insert name v).merge ⟨fields⟩ := rfl

/-- **Of two records that are merged, the fields of the second win.** -/
theorem get?_merge (r : Record) {fields : List (String × Value)}
    (hnames : (fields.map (·.1)).Nodup) (n : String) :
    (r.merge ⟨fields⟩).get? n = (fields.lookup n).or (r.get? n) := by
  induction fields generalizing r with
  | nil => rfl
  | cons f fields ih =>
    obtain ⟨m, w⟩ := f
    rw [List.map_cons, List.nodup_cons] at hnames
    rw [merge_cons, ih _ hnames.2, get?_insert, lookup_cons_ite]
    by_cases hn : n = m
    · rw [if_pos hn, if_pos hn, lookup_eq_none (hn ▸ hnames.1)]
      rfl
    · rw [if_neg hn, if_neg hn]

theorem get?_ofList {fields : List (String × Value)} (hnames : (fields.map (·.1)).Nodup)
    (n : String) : (ofList fields).get? n = fields.lookup n := by
  rw [ofList, get?_merge _ hnames]
  exact Option.or_none

/-! ## Names stand once -/

theorem map_insertField (name : String) (v : Value) (fields : List (String × Value)) :
    (insertField name v fields).map (·.1)
      = if name ∈ fields.map (·.1) then fields.map (·.1) else fields.map (·.1) ++ [name] := by
  induction fields with
  | nil => rfl
  | cons f fields ih =>
    obtain ⟨m, w⟩ := f
    rw [insertField]
    split
    · rename_i hm
      rw [if_pos (by simp [eq_of_beq hm])]
      rfl
    · rename_i hm
      have hne : name ≠ m := fun heq => hm (beq_iff_eq.mpr heq.symm)
      simp only [List.map_cons, List.mem_cons, hne, false_or, ih]
      split <;> rfl

/-- **A record's names stay apart** when a field is set. -/
theorem nodup_names_insert {r : Record} (h : r.names.Nodup) (name : String) (v : Value) :
    (r.insert name v).names.Nodup := by
  rw [names, insert, map_insertField]
  split
  · exact h
  · rename_i hnotMem
    exact List.nodup_append_comm.mp (List.nodup_cons.mpr ⟨hnotMem, h⟩)

/-- **No name comes twice in a record that is made by setting fields.** -/
theorem nodup_names_ofList (fields : List (String × Value)) : (ofList fields).names.Nodup := by
  have hmerge : ∀ r : Record, r.names.Nodup → (r.merge ⟨fields⟩).names.Nodup := by
    induction fields with
    | nil => exact fun _ h => h
    | cons f fields ih => exact fun r h => ih (r.insert f.1 f.2) (nodup_names_insert h f.1 f.2)
  exact hmerge empty List.nodup_nil

/-! ## A list in which names come once -/

theorem insertField_of_notMem {name : String} {fields : List (String × Value)}
    (h : name ∉ fields.map (·.1)) (v : Value) :
    insertField name v fields = fields ++ [(name, v)] := by
  induction fields with
  | nil => rfl
  | cons f fields ih =>
    obtain ⟨m, w⟩ := f
    obtain ⟨hne, hrest⟩ := not_or.mp (mt List.mem_cons.mpr h)
    rw [insertField, if_neg (by simpa using Ne.symm hne), ih hrest, List.cons_append]

/-- **A list in which names come once is its own record.** -/
theorem ofList_of_nodup {fields : List (String × Value)} (h : (fields.map (·.1)).Nodup) :
    ofList fields = ⟨fields⟩ := by
  have hmerge : ∀ before : List (String × Value), ((before ++ fields).map (·.1)).Nodup →
      (Record.mk before).merge ⟨fields⟩ = ⟨before ++ fields⟩ := by
    clear h
    induction fields with
    | nil => exact fun before _ => by rw [List.append_nil]; rfl
    | cons f fields ih =>
      intro before hnodup
      have hnew : f.1 ∉ before.map (·.1) := by
        rw [List.map_append] at hnodup
        exact fun hmem => List.disjoint_of_nodup_append hnodup hmem List.mem_cons_self
      rw [List.append_cons] at hnodup ⊢
      rw [merge_cons, insert, insertField_of_notMem hnew]
      exact ih (before ++ [f]) hnodup
  exact hmerge [] h

end SqlShorthand.Record
