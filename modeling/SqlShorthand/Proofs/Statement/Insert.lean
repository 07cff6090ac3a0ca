import SqlShorthand.Proofs.Statement.Written

/-!
# Proofs/Statement/Insert — columns, placeholders and values line up

An INSERT lists its columns, lists a placeholder or a fragment for each, and gives the values that
are bound, in three passes over one record; the placeholders are then found again in the SQL, by
their names.  What is sent is as if all three had been one pass: a column for each field but the
empty fragments, `?` or the fragment in its place, and the values that are no fragments in their
order (`bind_insert`).  A CALL writes each `?` itself, and gives its values by position.
-/

namespace SqlShorthand.Statement

open Placeholder (BindsTo Unmarked)

/-- **Fields that can be inserted**: at least one, no column twice, columns that are named as
placeholders are, and fragments without quotes and colons. -/
structure Insertable (r : Record) : Prop where
  ne_nil : r.fields ≠ []
  distinct : r.names.Nodup
  starts : ∀ f ∈ r.fields, Placeholder.namesHere f.1.toList = true
  word : ∀ f ∈ r.fields, ∀ ch ∈ f.1.toList, Text.isNameChar ch = true
  fragments : ∀ f ∈ r.fields, ∀ sql, f.2 = .raw sql → Unmarked sql

/-- The fields that a write writes. -/
def writtenFields (r : Record) : List (String × Value) := r.fields.filter fun f => isWritten f.2

/-- The values that are bound: all but fragments. -/
def boundValues (vs : List Value) : List Value := vs.filter (!·.isRaw)

/-- The verbs that insert. -/
def insertVerbs : List Verb := [.insert, .replace, .logHandler]

/-- The verbs that call a procedure. -/
def callVerbs : List Verb := [.call, .callAffected, .callRows]

/-- The keyword of an insertion. -/
def insertKeyword : Verb → String
  | .replace => "REPLACE"
  | _ => "INSERT"

/-- The SQL of an insertion up to what is given for its columns. -/
def insertHead (keyword : String) (options : Options) (table : String) (columns : List String) :
    String :=
  keyword ++ options.modifierSql ++ " INTO " ++ table ++ "(" ++ ", ".intercalate columns ++
    ") VALUES("

/-- The SQL of an insertion, with these columns and what is given for them. -/
def insertSql (keyword : String) (options : Options) (table : String)
    (columns values : List String) : String :=
  insertHead keyword options table columns ++ ", ".intercalate values ++ ")"

/-- The SQL of a call, with these arguments. -/
def callSql (c : Command) (arguments : List String) : String :=
  "CALL" ++ c.clauseSql ++ "(" ++ ", ".intercalate arguments ++ ")"

/-! ## One pass over the record -/

theorem writtenColumns_eq (r : Record) : writtenColumns r = (writtenFields r).map (·.1) :=
  filterMap_column r.fields

theorem writtenValues_eq (r : Record) :
    writtenValues r = (writtenFields r).map fun f => writtenAs (":" ++ f.1) f.2 :=
  filterMap_written (fun f : String × Value => ":" ++ f.1) Prod.snd r.fields

theorem callArguments_eq (vs : List Value) :
    callArguments vs = (vs.filter isWritten).map (writtenAs "?") :=
  filterMap_written (fun _ => "?") id vs

/-- An empty fragment is not bound. -/
theorem isWritten_of_not_isRaw {v : Value} (h : v.isRaw = false) : isWritten v = true := by
  cases v with
  | raw sql => cases h
  | _ => rfl

/-- The values that are bound are those of the fields that are written. -/
theorem flatMap_boundValues (r : Record) :
    ((writtenFields r).flatMap fun f => boundValues [f.2]) = boundValues r.values := by
  rw [writtenFields, Record.values]
  induction r.fields with
  | nil => rfl
  | cons f fields ih =>
    cases hraw : f.2.isRaw with
    | false => simp_all [boundValues, isWritten_of_not_isRaw hraw]
    | true => cases hwritten : isWritten f.2 <;> simp_all [boundValues]

/-! ## Binding an insertion -/

variable {c : Command} {options : Options} {r : Record} {verb : Verb}

theorem boundFields_eq (h : Insertable r) :
    boundFields r = ⟨r.fields.filter fun f => !f.2.isRaw⟩ :=
  Record.ofList_of_nodup (h.distinct.sublist (List.filter_sublist.map _))

/-- What is written for a field is bound by itself. -/
theorem bindsTo_writtenAs (h : Insertable r) {f : String × Value} (hf : f ∈ r.fields) :
    BindsTo (boundFields r) (writtenAs (":" ++ f.1) f.2) (writtenAs "?" f.2)
      (boundValues [f.2]) := by
  obtain ⟨column, v⟩ := f
  have hvalue : v.isRaw = false → BindsTo (boundFields r) (":" ++ column) "?" [v] := fun hv =>
    Placeholder.bindsTo_named (h.starts _ hf) (h.word _ hf) (get?_boundFields h.distinct hf hv)
  cases v with
  | raw sql => exact Placeholder.bindsTo_unmarked (h.fragments _ hf sql rfl)
  | _ => exact hvalue rfl

/-- Up to what is given for its columns, an insertion that was read has no quote and no colon. -/
theorem unmarked_insertHead (hc : c.WellFormed) (h : Insertable r) (verb : Verb) :
    Unmarked (insertHead (insertKeyword verb) (.resolve c.options) c.table
      ((writtenFields r).map (·.1))) := by
  have hkeyword : Unmarked (insertKeyword verb) := by
    cases verb <;> exact Placeholder.unmarked_of_any (by decide)
  have hinto : Unmarked " INTO " := Placeholder.unmarked_of_any (by decide)
  have hopen : Unmarked "(" := Placeholder.unmarked_of_any (by decide)
  have hvalues : Unmarked ") VALUES(" := Placeholder.unmarked_of_any (by decide)
  have hcomma : Unmarked ", " := Placeholder.unmarked_of_any (by decide)
  have hcolumns : Unmarked (", ".intercalate ((writtenFields r).map (·.1))) := by
    refine forall_mem_intercalate hcomma fun column hcolumn => ?_
    obtain ⟨f, hf, rfl⟩ := List.mem_map.mp hcolumn
    exact unmarked_of_isNameChar (h.word f (List.mem_filter.mp hf).1)
  exact forall_mem_append (forall_mem_append (forall_mem_append (forall_mem_append
    (forall_mem_append (forall_mem_append hkeyword (unmarked_modifierSql hc)) hinto)
    (unmarked_of_isNameChar hc.table)) hopen) hcolumns) hvalues

/-- **What is sent for an insertion**, and the values that go with it. -/
theorem bind_insert (hc : c.WellFormed) (h : Insertable r) (verb : Verb) :
    Placeholder.bind
        (insertSql (insertKeyword verb) (.resolve c.options) c.table (writtenColumns r)
          (writtenValues r))
        (.ofRecord (boundFields r))
      = .ok (insertSql (insertKeyword verb) (.resolve c.options) c.table
          ((writtenFields r).map (·.1)) ((writtenFields r).map fun f => writtenAs "?" f.2),
        boundValues r.values) := by
  have hraw : ∀ f ∈ (boundFields r).fields, f.2.isRaw = false := by
    rw [boundFields_eq h]
    intro f hf
    simpa using (List.mem_filter.mp hf).2
  have hfields : ∀ f ∈ writtenFields r, BindsTo (boundFields r) (writtenAs (":" ++ f.1) f.2)
      (writtenAs "?" f.2) (boundValues [f.2]) := fun f hf =>
    bindsTo_writtenAs h (List.mem_filter.mp hf).1
  have hgiven := Placeholder.bindsTo_intercalate hfields
  have hclose : Unmarked ")" := Placeholder.unmarked_of_any (by decide)
  have hends : Placeholder.EndsName ")".toList := by
    intro ch hch
    obtain rfl : ')' = ch := by simpa using hch
    decide
  have hwhole := (hgiven.append (Placeholder.bindsTo_unmarked hclose) (by simp) hends)
    |>.unmarked_append (unmarked_insertHead hc h verb)
  rw [List.append_nil, flatMap_boundValues, ← String.append_assoc, ← String.append_assoc] at hwhole
  rw [writtenColumns_eq, writtenValues_eq]
  exact Placeholder.bind_ofRecord hraw hwhole

/-! ## Compiling -/

/-- An insertion is compiled in one way, whichever verb asks for it. -/
theorem compile_insert (hverb : c.verb = some verb) (hinsert : verb ∈ insertVerbs)
    (htable : c.table ≠ "") (hr : r.fields ≠ []) (options : Options) (more : List Params) :
    c.compile options (.named r :: more)
      = .ok ⟨insertSql (insertKeyword verb) options c.table (writtenColumns r) (writtenValues r),
          .ofRecord (boundFields r), .affected⟩ := by
  have hrecord : recordOf (.named r :: more) "Insert" = .ok r := by
    simp [recordOf, Params.asRecord?, Record.isEmpty, hr]
  have hcompiled : c.compileBody options (.named r :: more)
      = Statement.insert (insertKeyword verb) c.table options (.named r :: more) := by
    rw [Command.compileBody, hverb]
    cases verb
    case insert | replace | logHandler => rfl
    all_goals exact absurd hinsert (by decide)
  rw [Command.compile, if_neg (by simp [htable]), hcompiled, Statement.insert, hrecord]
  rfl

theorem compile_call (hverb : c.verb = some verb) (hcall : verb ∈ callVerbs) (options : Options)
    (args : List Params) : c.compile options args = .ok (call verb c args) := by
  rw [Command.compile, Command.needsTable, Command.compileBody, hverb]
  cases verb
  case call | callAffected | callRows => rfl
  all_goals exact absurd hcall (by decide)

/-- **A call takes its values by position**: those that are no fragments, or nothing if there are
none. -/
theorem params_call (verb : Verb) (c : Command) (args : List Params) :
    (call verb c args).params.asRecord? = none ∧
      (call verb c args).params.values = boundValues (firstParams args).values := by
  rw [call]
  dsimp only
  split
  · rename_i hempty
    exact ⟨rfl, (List.isEmpty_iff.mp hempty).symm⟩
  · exact ⟨rfl, rfl⟩

/-- Values by position leave the SQL as it is. -/
theorem bind_of_asRecord? {params : Params} (sql : String) (h : params.asRecord? = none)
    (hraw : ∀ v ∈ params.values, v.isRaw = false) :
    Placeholder.bind sql params = .ok (sql, params.values) := by
  have hbindable := Params.ensureBindable_of_forall hraw
  cases params with
  | none | positional vs => simp only [Placeholder.bind, hbindable, Params.values]
  | named r => cases h

/-! ## Every insertion and every call -/

/-- **The values of an INSERT and of a CALL line up with their places.**  An insertion that was read,
of fields that can be inserted, compiles, and its SQL is bound: it names the columns of all fields
but the empty fragments, gives in the same order `?` for a value and a fragment for itself, and
takes exactly the values that are no fragments, in order.  A call compiles whatever it is given, with
one argument for each value but the empty fragments, in the same way, and takes the values that are
no fragments by position. -/
theorem inserted_and_called_values_line_up :
    (∀ (text : String) (c : Command) (verb : Verb) (r : Record) (more : List Params),
      Command.parse text = .ok c → c.verb = some verb → verb ∈ insertVerbs → c.table ≠ "" →
      Insertable r →
      ∃ stmt, c.compile (.resolve c.options) (.named r :: more) = .ok stmt ∧
        Placeholder.bind stmt.sql stmt.params
          = .ok (insertSql (insertKeyword verb) (.resolve c.options) c.table
              ((writtenFields r).map (·.1)) ((writtenFields r).map fun f => writtenAs "?" f.2),
            boundValues r.values)) ∧
    ∀ (c : Command) (verb : Verb) (options : Options) (args : List Params),
      c.verb = some verb → verb ∈ callVerbs →
      ∃ stmt, c.compile options args = .ok stmt ∧
        stmt.sql = callSql c
          (((firstParams args).values.filter isWritten).map (writtenAs "?")) ∧
        stmt.params.asRecord? = none ∧
        stmt.params.values = boundValues (firstParams args).values ∧
        Placeholder.bind stmt.sql stmt.params
          = .ok (stmt.sql, boundValues (firstParams args).values) := by
  refine ⟨fun text c verb r more hparse hverb hinsert htable hr => ?_,
    fun c verb options args hverb hcall => ?_⟩
  · exact ⟨_, compile_insert hverb hinsert htable hr.ne_nil _ more,
      bind_insert (Command.wellFormed_of_parse hparse) hr verb⟩
  · obtain ⟨hposition, hvalues⟩ := params_call verb c args
    have hraw : ∀ v ∈ (call verb c args).params.values, v.isRaw = false := by
      rw [hvalues]
      intro v hv
      simpa using (List.mem_filter.mp hv).2
    refine ⟨_, compile_call hverb hcall options args, ?_, hposition, hvalues, ?_⟩
    · rw [← callArguments_eq]
      rfl
    · rw [← hvalues]
      exact bind_of_asRecord? _ hposition hraw

/-- A value, a fragment and an empty fragment, inserted and passed on. -/
theorem inserted_and_called_values_line_up_mixed :
    let r : Record := ⟨[("name", .text "x"), ("created", .raw "NOW()"), ("skipped", .raw ""),
      ("n", .int 2)]⟩
    (∃ c stmt, Command.parse "users:add/ignore" = .ok c ∧
      c.compile (.resolve c.options) [.named r] = .ok stmt ∧
      Placeholder.bind stmt.sql stmt.params
        = .ok ("INSERT IGNORE INTO users(name, created, n) VALUES(?, NOW(), ?)",
          [.text "x", .int 2])) ∧
    ∃ c stmt, Command.parse ":call sp" = .ok c ∧ c.compile (.resolve c.options) [.named r] = .ok stmt ∧
      stmt.sql = "CALL sp(?, NOW(), ?)" ∧ stmt.params.values = [.text "x", .int 2] := by
  intro r
  have hr : Insertable r := by
    have hnames : ∀ f ∈ r.fields, f.1.toList.all Text.isNameChar = true := by decide +kernel
    have hfragments : ∀ f ∈ r.fields, f.2.isRaw = true →
        f.2.asText.toList.any Placeholder.isMark = false := by decide +kernel
    refine ⟨by decide, by decide +kernel, by decide +kernel,
      fun f hf => List.all_eq_true.mp (hnames f hf), fun f hf sql hsql => ?_⟩
    have hfragment := hfragments f hf
    rw [hsql] at hfragment
    exact Placeholder.unmarked_of_any (hfragment rfl)
  obtain ⟨hinsert, hcall⟩ := inserted_and_called_values_line_up
  have hadd : Command.parse "users:add/ignore"
      = .ok { table := "users", verb := some .insert, options := ["ignore"] } := by decide +kernel
  have hsp : Command.parse ":call sp" = .ok { verb := some .call, clause := "sp" } := by
    decide +kernel
  obtain ⟨stmt, hcompile, hbind⟩ := hinsert _ _ .insert r [] hadd rfl (by decide) (by decide) hr
  obtain ⟨stmt', hcompile', hsql, -, hvalues, -⟩ :=
    hcall { verb := some .call, clause := "sp" } .call (.resolve []) [.named r] rfl (by decide)
  refine ⟨⟨_, stmt, hadd, hcompile, hbind.trans ?_⟩,
    ⟨_, stmt', hsp, hcompile', hsql.trans ?_, hvalues.trans ?_⟩⟩
  · decide +kernel
  · decide +kernel
  · decide +kernel

end SqlShorthand.Statement
