import SqlShorthand.Proofs.Statement.Written

/-!
# Proofs/Statement/Update — the values that an UPDATE binds

An UPDATE sets the columns of one record and filters by the names of another, and both go into one
record of values: that of the columns, into which that of the clause is merged.  A placeholder is
looked up by its name alone.  So

* a column is set to its own value, unless the clause's record has a value under the column's name:
  then it is set to that;
* a placeholder of the clause gets the value of the clause's record.

`BoundAt` says which value stands for which placeholder; `isPlaceholder_set` says that the columns
of a command that was read are placeholders, if their names can be.
-/

namespace SqlShorthand

/-! ## The value at a placeholder -/

namespace Placeholder

/-- **The value that is bound at a placeholder**: the placeholder stands after `before` in the SQL,
is sent as `?`, and `v` comes in its turn among the values. -/
def BoundAt (sql : String) (sent : String × List Value) (before : List Char) (name : String)
    (v : Value) : Prop :=
  ∃ as bs, pieces sql.toList = as ++ .named name.toList :: bs ∧ source as = before ∧
    sent.1.toList = marked as ++ '?' :: marked bs ∧ sent.2[(names as).length]? = some v

variable {r : Record} {sql out name : String} {values : List Value}

/-- **A placeholder is bound to the value under its name.** -/
theorem boundAt_of_bind (h : bind sql (.named r) = .ok (out, values)) {before after : List Char}
    (hplaceholder : IsPlaceholder before name.toList after)
    (hsql : sql.toList = before ++ ':' :: (name.toList ++ after)) {v : Value}
    (hv : r.get? name = some v) : BoundAt sql (out, values) before name v := by
  obtain ⟨as, bs, hpieces, hsource⟩ := (isPlaceholder_iff before name.toList after).mp hplaceholder
  rw [← hsql] at hpieces
  obtain ⟨hout, hvalues⟩ := values_of_fill (bind_named_eq_ok.mp h).2
  refine ⟨as, bs, hpieces, hsource, ?_, ?_⟩
  · rw [hout, hpieces, marked, List.flatMap_append]
    rfl
  · have hnames : names (pieces sql.toList) = names as ++ name :: names bs := by
      rw [hpieces, names, List.filterMap_append, List.filterMap_cons]
      dsimp only [Piece.name?]
      rw [String.ofList_toList]
      rfl
    have hindex := congrArg (·[(names as).length]?) hvalues
    rw [hnames] at hindex
    simpa [hv] using hindex

end Placeholder

/-! ## The SQL of an UPDATE -/

namespace Statement

/-- The SQL up to the assignments. -/
def updateHead (c : Command) (options : Options) : String :=
  "UPDATE" ++ options.modifierSql ++ " " ++ c.table ++ " SET "

/-- The SQL before the placeholder of a column, after the columns `before` it. -/
def setBefore (c : Command) (options : Options) (before : List (String × Value))
    (column : String) : String :=
  updateHead c options ++ ", ".intercalate (assignments ⟨before⟩ ++ [column ++ " = "])

/-- The SQL after it, with the columns `after` it. -/
def setAfter (c : Command) (after : List (String × Value)) : String :=
  ", ".intercalate ("" :: assignments ⟨after⟩) ++ c.clauseSql

/-- The SQL up to a place in the clause, after `before` in it. -/
def clauseBefore (c : Command) (options : Options) (r : Record) (before : List Char) : List Char :=
  (updateHead c options ++ ", ".intercalate (assignments r) ++ " ").toList ++ before

variable {c : Command} {options : Options} {r extra : Record} {args : List Params}
  {stmt : Statement} {column : String} {v : Value} {before after : List (String × Value)}

/-- **The SQL and the values of an UPDATE** with named values for its clause. -/
theorem update_eq (hverb : c.verb = some .update)
    (h : c.compile options (.named r :: .named extra :: args) = .ok stmt) :
    stmt.sql = updateHead c options ++ ", ".intercalate (assignments r) ++ c.clauseSql ∧
      stmt.params = .ofRecord ((boundFields r).merge extra) := by
  rw [Command.compile] at h
  split at h
  · cases h
  · rw [Command.compileBody, hverb] at h
    dsimp only at h
    rw [update] at h
    split at h
    · cases h
    · rename_i r' hrecord
      obtain rfl : r = r' := by
        rw [recordOf] at hrecord
        dsimp only [List.head?_cons, Option.bind_some, Params.asRecord?] at hrecord
        split at hrecord <;> cases hrecord
        rfl
      split at h
      · cases h
      · rename_i params hparams
        cases hparams
        cases h
        exact ⟨rfl, rfl⟩

theorem intercalate_append_cons (sep a b : String) (xs ys : List String) :
    sep.intercalate (xs ++ (a ++ b) :: ys)
      = sep.intercalate (xs ++ [a]) ++ sep.intercalate (b :: ys) := by
  cases xs with
  | nil =>
    rw [List.nil_append, List.nil_append, String.intercalate_cons_append,
      String.intercalate_singleton]
  | cons x xs =>
    rw [String.intercalate_append_of_ne_nil (List.cons_ne_nil x xs) (List.cons_ne_nil _ ys),
      String.intercalate_append_of_ne_nil (List.cons_ne_nil x xs) (List.cons_ne_nil a []),
      String.intercalate_cons_append, String.intercalate_singleton]
    simp only [String.append_assoc]

theorem assignments_append (hv : v.isRaw = false) :
    assignments ⟨before ++ (column, v) :: after⟩
      = assignments ⟨before⟩ ++ (column ++ " = " ++ (":" ++ column)) :: assignments ⟨after⟩ := by
  have hwritten : written? (":" ++ column) v = some (":" ++ column) := by
    cases v with
    | raw sql => cases hv
    | _ => rfl
  rw [assignments, List.filterMap_append, List.filterMap_cons]
  dsimp only
  rw [hwritten]
  rfl

/-- **The placeholder of a column** in the SQL. -/
theorem toList_update_set (hv : v.isRaw = false) :
    (updateHead c options ++ ", ".intercalate (assignments ⟨before ++ (column, v) :: after⟩) ++
        c.clauseSql).toList
      = (setBefore c options before column).toList ++
          ':' :: (column.toList ++ (setAfter c after).toList) := by
  have hcolumn : ", ".intercalate ((":" ++ column) :: assignments ⟨after⟩)
      = ":" ++ column ++ ", ".intercalate ("" :: assignments ⟨after⟩) := by
    rw [← String.append_empty (s := ":" ++ column), String.intercalate_cons_append,
      String.append_empty]
  rw [assignments_append hv, intercalate_append_cons, hcolumn, setBefore, setAfter]
  simp [String.toList_append]

/-- A placeholder of the clause in the SQL. -/
theorem toList_update_clause {name b rest : List Char}
    (h : c.clause.toList = b ++ ':' :: (name ++ rest)) :
    (updateHead c options ++ ", ".intercalate (assignments r) ++ c.clauseSql).toList
      = clauseBefore c options r b ++ ':' :: (name ++ rest) := by
  have hclause : c.clauseSql = " " ++ c.clause := by
    rw [Command.clauseSql, if_neg]
    intro hempty
    rw [String.isEmpty_iff.mp hempty] at h
    simp at h
  rw [hclause, clauseBefore]
  simp [String.toList_append, h]

/-! ## The columns are placeholders -/

theorem unquoted_updateHead (h : c.WellFormed) :
    Unquoted (updateHead c (.resolve c.options)) := by
  have hupdate : Unquoted "UPDATE" := unquoted_of_any (by decide)
  have hspace : Unquoted " " := unquoted_of_any (by decide)
  have hset : Unquoted " SET " := unquoted_of_any (by decide)
  exact forall_mem_append (forall_mem_append (forall_mem_append (forall_mem_append hupdate
    (unquoted_modifierSql h)) hspace) (unquoted_of_isNameChar h.table)) hset

/-- **Columns of an UPDATE that leave its placeholders alone**: their names are made of name
characters, and their raw fragments have no quotes. -/
structure PlainFields (fields : List (String × Value)) : Prop where
  names : ∀ f ∈ fields, ∀ ch ∈ f.1.toList, Text.isNameChar ch = true
  fragments : ∀ f ∈ fields, ∀ sql, f.2 = .raw sql → Unquoted sql

theorem unquoted_assignments (h : PlainFields before) :
    ∀ assignment ∈ assignments ⟨before⟩, Unquoted assignment := by
  intro assignment hassignment
  obtain ⟨⟨column, v⟩, hf, hwritten⟩ := List.mem_filterMap.mp hassignment
  obtain ⟨text, htext, rfl⟩ := Option.map_eq_some_iff.mp hwritten
  have hcolumn : Unquoted column := unquoted_of_isNameChar (h.names _ hf)
  have hequals : Unquoted " = " := unquoted_of_any (by decide)
  refine forall_mem_append (forall_mem_append hcolumn hequals) ?_
  cases v with
  | raw fragment =>
    rw [written?] at htext
    split at htext <;> cases htext
    exact h.fragments _ hf _ rfl
  | _ =>
    cases htext
    exact forall_mem_append (unquoted_of_any (by decide)) hcolumn

theorem head?_setAfter (c : Command) (after : List (String × Value)) :
    ∀ ch ∈ (setAfter c after).toList.head?, Text.isNameChar ch = false := by
  intro ch hch
  rw [setAfter] at hch
  cases hafter : assignments ⟨after⟩ with
  | cons next rest =>
    rw [hafter, String.intercalate_cons_cons] at hch
    obtain rfl : ',' = ch := by simpa using hch
    decide
  | nil =>
    rw [hafter, String.intercalate_singleton, Command.clauseSql] at hch
    split at hch
    · simp at hch
    · obtain rfl : ' ' = ch := by simpa using hch
      decide

/-- **A column's placeholder is one**, in an UPDATE whose table and keywords were read from a
text. -/
theorem isPlaceholder_set (hc : c.WellFormed) (hbefore : PlainFields before)
    (hstarts : Placeholder.namesHere column.toList = true)
    (hword : ∀ ch ∈ column.toList, Text.isNameChar ch = true) :
    Placeholder.IsPlaceholder (setBefore c (.resolve c.options) before column).toList column.toList
      (setAfter c after).toList := by
  have hcolumn : Unquoted column := unquoted_of_isNameChar hword
  have hequals : Unquoted " = " := unquoted_of_any (by decide)
  have hseparator : Unquoted ", " := unquoted_of_any (by decide)
  have hunquoted : Unquoted (setBefore c (.resolve c.options) before column) := by
    refine forall_mem_append (unquoted_updateHead hc) (forall_mem_intercalate hseparator ?_)
    intro part hpart
    rcases List.mem_append.mp hpart with hpart | hpart
    · exact unquoted_assignments hbefore part hpart
    · rw [List.mem_singleton.mp hpart]
      exact forall_mem_append hcolumn hequals
  refine ⟨closed_of_unquoted hunquoted, ?_, hstarts, hword, head?_setAfter c after⟩
  -- The text before the colon ends in the blank after the equals sign.
  have hblank : column ++ " = " = column ++ " =" ++ " " := by rw [String.append_assoc]; rfl
  rw [setBefore, hblank, intercalate_append_cons, String.intercalate_singleton]
  simp [String.toList_append]

/-! ## The values -/

/-- **A column's value**: that of the clause's record under its name, if there is one, else its
own. -/
theorem get?_merge_boundFields (hr : r.names.Nodup) (hextra : extra.names.Nodup)
    (hmem : (column, v) ∈ r.fields) (hv : v.isRaw = false) :
    ((boundFields r).merge extra).get? column = some ((extra.get? column).getD v) := by
  rw [Record.get?_merge _ hextra, get?_boundFields hr hmem hv, Record.get?]
  cases extra.fields.lookup column <;> rfl

theorem ofRecord_of_get? {name : String} (h : r.get? name = some v) :
    Params.ofRecord r = .named r := by
  have hsome : r.isEmpty = false := by
    have hmem := Record.mem_fields_of_get? h
    rw [Record.isEmpty, List.isEmpty_eq_false_iff]
    exact List.ne_nil_of_mem hmem
  rw [Params.ofRecord, hsome]
  rfl

section Bound

variable {out : String} {values : List Value} (hverb : c.verb = some .update)
  (hextra : extra.names.Nodup)
  (hcompile : c.compile options (.named r :: .named extra :: args) = .ok stmt)
  (hbind : Placeholder.bind stmt.sql stmt.params = .ok (out, values))

include hverb hextra hcompile hbind

/-- At the placeholder of a column stands the column's value, as it was merged. -/
theorem boundAt_set (hr : r.names.Nodup) (hfields : r.fields = before ++ (column, v) :: after)
    (hv : v.isRaw = false)
    (hplaceholder : Placeholder.IsPlaceholder (setBefore c options before column).toList
      column.toList (setAfter c after).toList) :
    Placeholder.BoundAt stmt.sql (out, values) (setBefore c options before column).toList column
      ((extra.get? column).getD v) := by
  obtain ⟨hsql, hparams⟩ := update_eq hverb hcompile
  have hmem : (column, v) ∈ r.fields := by
    rw [hfields]
    exact List.mem_append_right before List.mem_cons_self
  have hvalue := get?_merge_boundFields hr hextra hmem hv
  rw [hparams, ofRecord_of_get? hvalue] at hbind
  refine Placeholder.boundAt_of_bind hbind hplaceholder ?_ hvalue
  obtain ⟨fields⟩ := r
  obtain rfl : fields = before ++ (column, v) :: after := hfields
  rw [hsql, toList_update_set hv]

/-- At a placeholder of the clause stands the value of the clause's record. -/
theorem boundAt_clause {name : String} {b rest : List Char}
    (hclause : c.clause.toList = b ++ ':' :: (name.toList ++ rest))
    (hplaceholder : Placeholder.IsPlaceholder (clauseBefore c options r b) name.toList rest)
    (hv : extra.get? name = some v) :
    Placeholder.BoundAt stmt.sql (out, values) (clauseBefore c options r b) name v := by
  obtain ⟨hsql, hparams⟩ := update_eq hverb hcompile
  have hvalue : ((boundFields r).merge extra).get? name = some v := by
    rw [Record.get?_merge _ hextra]
    exact congrArg (Option.or · _) hv
  rw [hparams, ofRecord_of_get? hvalue] at hbind
  refine Placeholder.boundAt_of_bind hbind hplaceholder ?_ hvalue
  rw [hsql, toList_update_clause hclause]

end Bound

/-- **The values that an UPDATE binds.**  In an UPDATE of the columns `r` with the named values
`extra` for its clause, whose columns are named as placeholders are and whose raw fragments have no
quotes, if it compiles and its placeholders can be filled: at the placeholder of a column stands the
value of `extra` under its name, if there is one, and else the value of the column; at a placeholder
of the clause stands the value of `extra`, if there is one.  The place of a column is a placeholder
if the command was read from a text. -/
theorem update_binds_merged_values {out : String} {values : List Value}
    (hverb : c.verb = some .update) (hr : r.names.Nodup) (hextra : extra.names.Nodup)
    (hcolumns : ∀ column ∈ r.names, Placeholder.namesHere column.toList = true)
    (hplain : PlainFields r.fields)
    (hcompile : c.compile options (.named r :: .named extra :: args) = .ok stmt)
    (hbind : Placeholder.bind stmt.sql stmt.params = .ok (out, values)) :
    (∀ before column v after, r.fields = before ++ (column, v) :: after → v.isRaw = false →
      (c.WellFormed ∧ options = .resolve c.options ∨
        Placeholder.IsPlaceholder (setBefore c options before column).toList column.toList
          (setAfter c after).toList) →
      Placeholder.BoundAt stmt.sql (out, values) (setBefore c options before column).toList column
        ((extra.get? column).getD v)) ∧
    ∀ before name after, c.clause.toList = before ++ ':' :: (name.toList ++ after) →
      Placeholder.IsPlaceholder (clauseBefore c options r before) name.toList after →
      ∀ v, extra.get? name = some v →
        Placeholder.BoundAt stmt.sql (out, values) (clauseBefore c options r before) name v := by
  refine ⟨fun before column v after hfields hv hset => ?_,
    fun before name after hclause hplaceholder v hv =>
      boundAt_clause hverb hextra hcompile hbind hclause hplaceholder hv⟩
  refine boundAt_set hverb hextra hcompile hbind hr hfields hv ?_
  rcases hset with ⟨hc, rfl⟩ | hset
  · have hmem : (column, v) ∈ r.fields := by simp [hfields]
    have hbefore : PlainFields before :=
      ⟨fun f hf => hplain.names f (by simp [hfields, hf]),
        fun f hf => hplain.fragments f (by simp [hfields, hf])⟩
    exact isPlaceholder_set hc hbefore (hcolumns column (List.mem_map_of_mem hmem))
      (hplain.names _ hmem)
  · exact hset

/-- A column that is set to a value, one that is set to a fragment, and a filter. -/
theorem update_binds_merged_values_filtered :
    let sql := "UPDATE docs SET title = :title, n = n + 1 WHERE id = :id"
    let sent := ("UPDATE docs SET title = ?, n = n + 1 WHERE id = ?", [.text "x", .int 3])
    Placeholder.BoundAt sql sent "UPDATE docs SET title = ".toList "title" (.text "x") ∧
      Placeholder.BoundAt sql sent
        "UPDATE docs SET title = :title, n = n + 1 WHERE id = ".toList "id" (.int 3) := by
  intro sql sent
  let c : Command := { table := "docs", verb := some .update, clause := "WHERE id = :id" }
  let r : Record := ⟨[("title", .text "x"), ("n", .raw "n + 1")]⟩
  let extra : Record := ⟨[("id", .int 3)]⟩
  have hparse : Command.parse "docs:mod WHERE id = :id" = .ok c := by decide +kernel
  have hplain : PlainFields r.fields := by
    have hnames : r.fields.all (fun f => f.1.toList.all Text.isNameChar) = true := by
      decide +kernel
    refine ⟨fun f hf => List.all_eq_true.mp (List.all_eq_true.mp hnames f hf), ?_⟩
    rintro ⟨column, v⟩ hf fragment hv
    obtain rfl : v = .raw fragment := hv
    rcases List.mem_cons.mp hf with hf | hf
    · cases hf
    · cases List.mem_singleton.mp hf
      exact unquoted_of_any (by decide)
  have hcompile : c.compile (.resolve c.options) [.named r, .named extra]
      = .ok ⟨sql, .named ⟨[("title", .text "x"), ("id", .int 3)]⟩, .affected⟩ := by decide +kernel
  have hbind : Placeholder.bind sql (.named ⟨[("title", .text "x"), ("id", .int 3)]⟩)
      = .ok sent := by decide +kernel
  obtain ⟨hset, hclause⟩ := update_binds_merged_values rfl (by decide +kernel) (by decide +kernel)
    (by decide +kernel) hplain hcompile hbind
  have hbefore : setBefore c (.resolve c.options) [] "title" = "UPDATE docs SET title = " := by
    decide +kernel
  have hfilter : clauseBefore c (.resolve c.options) r "WHERE id = ".toList
      = "UPDATE docs SET title = :title, n = n + 1 WHERE id = ".toList := by decide +kernel
  have hplaceholder : Placeholder.IsPlaceholder
      "UPDATE docs SET title = :title, n = n + 1 WHERE id = ".toList "id".toList [] :=
    ⟨closed_of_unquoted (unquoted_of_any (by decide)), by decide, by decide,
      List.all_eq_true.mp (by decide), nofun⟩
  have hsetBound := hset [] "title" (.text "x") [("n", .raw "n + 1")] rfl rfl
    (.inl ⟨Command.wellFormed_of_parse hparse, rfl⟩)
  have hclauseBound := hclause "WHERE id = ".toList "id" [] (by decide) (hfilter ▸ hplaceholder)
    (.int 3) rfl
  rw [hbefore] at hsetBound
  rw [hfilter] at hclauseBound
  exact ⟨hsetBound, hclauseBound⟩

/-- A name that both records have: the column is set to the value that filters. -/
theorem update_sets_filter_value :
    let c : Command := { table := "docs", verb := some .update, clause := "WHERE id = :id" }
    let stmt : Statement :=
      ⟨"UPDATE docs SET id = :id WHERE id = :id", .named ⟨[("id", .int 3)]⟩, .affected⟩
    c.compile {} [.named ⟨[("id", .int 5)]⟩, .named ⟨[("id", .int 3)]⟩] = .ok stmt ∧
      Placeholder.bind stmt.sql stmt.params
        = .ok ("UPDATE docs SET id = ? WHERE id = ?", [.int 3, .int 3]) := by
  decide +kernel

end Statement

end SqlShorthand
