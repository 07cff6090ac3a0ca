import SqlShorthand.Error
import SqlShorthand.Record

/-!
# Params — the values of one statement

Values are given by name for `:name` placeholders, or by position for `?`.
-/

namespace SqlShorthand

/-- The values of one statement. -/
inductive Params where
  | none
  | named (r : Record)
  | positional (vs : List Value)
  deriving DecidableEq, Inhabited

namespace Params

/-- Whether no value is given. -/
def isEmpty : Params → Bool
  | none => true
  | named r => r.isEmpty
  | positional vs => vs.isEmpty

/-- The record behind named values. -/
def asRecord? : Params → Option Record
  | named r => some r
  | _ => Option.none

/-- The values in the order in which they were given. -/
def values : Params → List Value
  | none => []
  | named r => r.values
  | positional vs => vs

/-- The values with their labels: a name, or a position counted from zero. -/
def labelled : Params → List (String × Value)
  | none => []
  | named r => r.fields
  | positional vs => vs.zipIdx.map fun (v, i) => (toString i, v)

/-- Refuses a raw fragment, naming the first. -/
def ensureBindable (p : Params) : Except Error Unit :=
  match p.labelled.find? fun (_, v) => v.isRaw with
  | some (label, _) => .error (.rawParam label)
  | Option.none => .ok ()

/-- The labelled values as the log shows them. -/
def describe (p : Params) : String :=
  ", ".intercalate (p.labelled.map fun (label, v) => label ++ " => " ++ v.display)

/-- Named values, or none when the record has no field. -/
def ofRecord (r : Record) : Params := if r.isEmpty then none else named r

/-! ## Values with their labels -/

theorem map_snd_labelled (params : Params) : params.labelled.map Prod.snd = params.values := by
  cases params with
  | none | named r => rfl
  | positional vs => simp [labelled, values, Function.comp_def]

/-- Values without a raw fragment are not refused. -/
theorem ensureBindable_of_forall {p : Params} (h : ∀ v ∈ p.values, v.isRaw = false) :
    p.ensureBindable = .ok () := by
  rw [ensureBindable]
  split
  · rename_i label v hfound
    have hmem := List.mem_map_of_mem (f := Prod.snd) (List.mem_of_find?_eq_some hfound)
    rw [map_snd_labelled] at hmem
    have hraw := List.find?_some hfound
    simp only [h v hmem] at hraw
    cases hraw
  · rfl

end Params

end SqlShorthand
