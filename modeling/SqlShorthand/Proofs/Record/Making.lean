import Mathlib.Data.List.Induction
import SqlShorthand.Params
import SqlShorthand.Proofs.Record

/-!
# Proofs/Record/Making — a name keeps its first place and its last value

A record is made from nothing by setting fields and by merging others in, which sets their fields
one by one.  So it is the list of all that was set, read by two rules (`Script.record_eq`): its
names stand where they first came (`names_ofList`), with the value that came last
(`get?_ofList_lastSet`).

Names in their order and the value under each are all there is to a record (`eq_of_get?`).  The laws
of merging are then read off the two: what merging does to the names (`names_merge`), and that the
second record's values win (`get?_merge_or`).
-/

namespace SqlShorthand.Record

/-! ## What was set -/

/-- **The value that was set last** under a name. -/
def lastSet (pairs : List (String × Value)) (name : String) : Option Value :=
  (pairs.filter (·.1 == name)).getLast?.map (·.2)

theorem lastSet_append_singleton (pairs : List (String × Value)) (m : String) (v : Value)
    (n : String) :
    lastSet (pairs ++ [(m, v)]) n = if n = m then some v else lastSet pairs n := by
  rw [lastSet, List.filter_append, List.filter_singleton]
  by_cases h : n = m
  · rw [if_pos h, beq_iff_eq.mpr h.symm, cond_true, List.getLast?_concat]
    rfl
  · rw [if_neg h, beq_false_of_ne (Ne.symm h), cond_false, List.append_nil]
    rfl

theorem ofList_append (pairs pairs' : List (String × Value)) :
    ofList (pairs ++ pairs') = (ofList pairs).merge ⟨pairs'⟩ := List.foldl_append

theorem names_insert (r : Record) (name : String) (v : Value) :
    (r.insert name v).names = if name ∈ r.names then r.names else r.names ++ [name] :=
  map_insertField name v r.fields

/-- **Names stand in the order in which they first came.** -/
theorem names_ofList (pairs : List (String × Value)) :
    (ofList pairs).names = (pairs.map (·.1)).eraseDups := by
  induction pairs using List.reverseRecOn with
  | nil => rfl
  | append_singleton pairs f ih =>
    have hset : ofList (pairs ++ [f]) = (ofList pairs).insert f.1 f.2 := ofList_append pairs [f]
    rw [hset, names_insert, ih, List.map_append, List.eraseDups_append]
    by_cases h : f.1 ∈ pairs.map (·.1)
    · have hold : [f.1].removeAll (pairs.map (·.1)) = [] := by simp [List.removeAll, h]
      rw [if_pos (List.mem_eraseDups.mpr h), List.map_singleton, hold, List.eraseDups_nil,
        List.append_nil]
    · have hnew : [f.1].removeAll (pairs.map (·.1)) = [f.1] := by simp [List.removeAll, h]
      rw [if_neg (mt List.mem_eraseDups.mp h), List.map_singleton, hnew]
      rfl

/-- **A name has the value that was set last under it.** -/
theorem get?_ofList_lastSet (pairs : List (String × Value)) (n : String) :
    (ofList pairs).get? n = lastSet pairs n := by
  induction pairs using List.reverseRecOn with
  | nil => rfl
  | append_singleton pairs f ih =>
    have hset : ofList (pairs ++ [f]) = (ofList pairs).insert f.1 f.2 := ofList_append pairs [f]
    rw [hset, get?_insert, ih, lastSet_append_singleton]

/-! ## Names and values are all there is -/

/-- The values of a record, each under its name. -/
theorem map_get?_names {r : Record} (h : r.names.Nodup) :
    r.names.map r.get? = r.values.map some := by
  rw [names, values, List.map_map, List.map_map]
  exact List.map_congr_left fun f hf => lookup_of_mem h hf

/-- **A record is determined by its names and what they stand for.** -/
theorem eq_of_get? {r r' : Record} (h : r.names.Nodup) (hnames : r'.names = r.names)
    (hget : ∀ n, r'.get? n = r.get? n) : r' = r := by
  have h' : r'.names.Nodup := hnames ▸ h
  have hvalues : r'.values = r.values := by
    refine List.map_injective_iff.mpr (fun _ _ => Option.some.inj) ?_
    rw [← map_get?_names h', ← map_get?_names h, hnames]
    exact List.map_congr_left fun n _ => hget n
  have hfields : r'.fields = r.fields :=
    (List.zip_of_prod hnames hvalues).trans (List.zip_of_prod rfl rfl).symm
  exact congrArg Record.mk hfields

/-! ## Merging -/

theorem names_cons (f : String × Value) (fields : List (String × Value)) :
    (Record.mk (f :: fields)).names = f.1 :: (Record.mk fields).names := rfl

/-- **Names keep their places under merging**, and those of the second record that are new follow in
its order. -/
theorem names_merge (r : Record) {other : Record} (h : other.names.Nodup) :
    (r.merge other).names = r.names ++ other.names.filter (· ∉ r.names) := by
  obtain ⟨fields⟩ := other
  induction fields generalizing r with
  | nil => exact (List.append_nil _).symm
  | cons f fields ih =>
    rw [names_cons] at h ⊢
    obtain ⟨hf, hfields⟩ := List.nodup_cons.mp h
    rw [merge_cons, ih (r.insert f.1 f.2) hfields, names_insert]
    by_cases hmem : f.1 ∈ r.names
    · rw [if_pos hmem, List.filter_cons_of_neg (by simpa using hmem)]
    · -- The name is new, and so none of those that follow it.
      have hrest : ∀ n ∈ (Record.mk fields).names,
          decide (n ∉ r.names ++ [f.1]) = decide (n ∉ r.names) := by
        intro n hn
        have hne : n ≠ f.1 := fun heq => hf (heq ▸ hn)
        simp [hne]
      rw [if_neg hmem, List.filter_cons_of_pos (by simpa using hmem), List.filter_congr hrest,
        List.append_assoc, List.singleton_append]

theorem nodup_names_merge {r other : Record} (hr : r.names.Nodup) (hother : other.names.Nodup) :
    (r.merge other).names.Nodup := by
  rw [names_merge r hother]
  refine hr.append (hother.filter _) fun n hn hnew => ?_
  simpa [hn] using List.of_mem_filter hnew

theorem get?_merge_or (r : Record) {other : Record} (h : other.names.Nodup) (n : String) :
    (r.merge other).get? n = (other.get? n).or (r.get? n) := get?_merge r h n

/-- **Merging is associative.** -/
theorem merge_assoc {a b c : Record} (ha : a.names.Nodup) (hb : b.names.Nodup)
    (hc : c.names.Nodup) : (a.merge b).merge c = a.merge (b.merge c) := by
  have hbc := nodup_names_merge hb hc
  refine eq_of_get? (nodup_names_merge ha hbc) ?_ fun n => ?_
  · -- What is new to the first two is what is new to the second and then to the first.
    have hnew : c.names.filter (· ∉ (a.merge b).names)
        = (c.names.filter (· ∉ b.names)).filter (· ∉ a.names) := by
      rw [List.filter_filter, names_merge a hb]
      refine List.filter_congr fun n _ => ?_
      by_cases hn : n ∈ a.names <;> simp [hn]
    rw [names_merge _ hc, hnew, names_merge a hb, names_merge a hbc, names_merge b hc,
      List.filter_append, List.append_assoc]
  · rw [get?_merge_or _ hc, get?_merge_or a hb, get?_merge_or a hbc, get?_merge_or b hc,
      Option.or_assoc]

/-- **Merging a record into itself changes nothing.** -/
theorem merge_self {r : Record} (h : r.names.Nodup) : r.merge r = r := by
  refine eq_of_get? h ?_ fun n => ?_
  · have hold : r.names.filter (· ∉ r.names) = [] := by simp
    rw [names_merge r h, hold, List.append_nil]
  · rw [get?_merge_or r h]
    cases r.get? n <;> rfl

/-! ## How records are made -/

/-- **How a record is made**: from nothing, by setting a field, or by merging in another that was
made. -/
inductive Script where
  | empty
  | insert (s : Script) (name : String) (v : Value)
  | merge (s other : Script)

namespace Script

/-- The record that is made. -/
def record : Script → Record
  | empty => .empty
  | insert s name v => s.record.insert name v
  | merge s other => s.record.merge other.record

/-- All that is set, in turn: merging sets the fields of the other record. -/
def inserted : Script → List (String × Value)
  | empty => []
  | insert s name v => s.inserted ++ [(name, v)]
  | merge s other => s.inserted ++ other.record.fields

/-- **A record is all that was set.** -/
theorem record_eq (s : Script) : s.record = ofList s.inserted := by
  induction s with
  | empty => rfl
  | insert s name v ih =>
    rw [inserted, ofList_append, ← ih]
    rfl
  | merge s other ih =>
    rw [inserted, ofList_append, ← ih]
    rfl

theorem nodup_names (s : Script) : s.record.names.Nodup := by
  rw [record_eq]
  exact nodup_names_ofList s.inserted

/-- **A name keeps its first place and its last value.**  However a record is made, its names come
once, in the order in which they were first set, and each has the value that was set last under it;
these are its values, in that order.  Merged with another, it keeps its names in their places, those
of the other that are new follow in the other's order, and the other's values win.  Merging is
associative, and merging a record into itself, or an empty one on either side, changes nothing. -/
theorem names_keep_first_place_and_last_value (a b c : Script) :
    a.record.names.Nodup ∧
    a.record.names = (a.inserted.map (·.1)).eraseDups ∧
    (∀ n, a.record.get? n = lastSet a.inserted n) ∧
    (Params.named a.record).values.map some = a.record.names.map (lastSet a.inserted) ∧
    (∀ n, (a.record.merge b.record).get? n = (b.record.get? n).or (a.record.get? n)) ∧
    (a.record.merge b.record).names
      = a.record.names ++ b.record.names.filter (· ∉ a.record.names) ∧
    (a.record.merge b.record).merge c.record = a.record.merge (b.record.merge c.record) ∧
    a.record.merge a.record = a.record ∧
    a.record.merge .empty = a.record ∧ Record.empty.merge a.record = a.record := by
  have hget : ∀ n, a.record.get? n = lastSet a.inserted n := fun n => by
    rw [record_eq, get?_ofList_lastSet]
  refine ⟨a.nodup_names, ?_, hget, ?_, get?_merge_or _ b.nodup_names, names_merge _ b.nodup_names,
    merge_assoc a.nodup_names b.nodup_names c.nodup_names, merge_self a.nodup_names, rfl,
    ofList_of_nodup a.nodup_names⟩
  · rw [record_eq, names_ofList]
  · have hvalues : a.record.names.map a.record.get? = (Params.named a.record).values.map some :=
      map_get?_names a.nodup_names
    rw [← hvalues]
    exact List.map_congr_left fun n _ => hget n

end Script

end SqlShorthand.Record
