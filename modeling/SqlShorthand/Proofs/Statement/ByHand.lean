import SqlShorthand.Command.Scope
import SqlShorthand.Proofs.Command.RoundTrip
import SqlShorthand.Proofs.Statement.Keyword

/-!
# Proofs/Statement/ByHand — compiled SQL typed by hand

A compiled statement says how its result is read; the same SQL after the verb `query` says nothing,
and its first word has to tell.  The two agree:

* `tellsShape_of_compile` — compiled SQL is a keyword and what follows it after a space, and the
  keyword is read as the statement says;
* `shape_keyword_append` — what follows a keyword after a space does not change its reading.

With `parse_render`, which keeps the SQL whole on its way through the text of a command, that is
`compiled_sql_agrees_by_hand`.  REPLACE and CALL are left out: the one counts rows, the other is
read as its verb asks, and neither word tells.
-/

namespace SqlShorthand

namespace Statement

/-! ## The keyword tells the shape -/

/-- The keywords that compiled SQL opens with and whose shape the word tells. -/
def keywords : List String := ["SELECT", "INSERT", "UPDATE", "DELETE", "SHOW", "TRUNCATE"]

theorem head?_of_mem_keywords {keyword : String} (h : keyword ∈ keywords) :
    ∃ ch, keyword.toList.head? = some ch ∧ Text.isBlank ch = false := by
  have hheads : ∀ keyword ∈ keywords, keyword.toList.head?.any (!Text.isBlank ·) = true := by
    decide +kernel
  simpa [Option.any_eq_true] using hheads keyword h

theorem opensWithWord_append {keyword rest word : String} (hkeyword : keyword ∈ keywords)
    (hrest : rest.toList.head? = some ' ') (hword : isKeyword word = true) :
    opensWithWord (keyword ++ rest).toList word = opensWithWord keyword.toList word := by
  rw [isKeyword, Bool.and_eq_true, List.all_eq_true] at hword
  have hspace : ∀ ch ∈ rest.toList.head?, Text.isStop ch = true := by
    intro ch hch
    obtain rfl : ' ' = ch := Option.some.inj (hrest.symm.trans hch)
    decide +kernel
  obtain ⟨ch, hhead, hvisible⟩ := head?_of_mem_keywords hkeyword
  obtain ⟨tail, htail⟩ := List.head?_eq_some_iff.mp hhead
  rw [opensWithWord_eq, opensWithWord_eq, String.toList_append, htail, List.cons_append,
    Text.trimStart_cons _ hvisible, Text.trimStart_cons _ hvisible, ← List.cons_append]
  exact opensHere_append hword.1 _ hspace

/-- SQL that opens with the same keywords has the same shape. -/
theorem shape_congr (reading : Reading) {sql sql' : String}
    (h : ∀ word, isKeyword word = true →
      opensWithWord sql.toList word = opensWithWord sql'.toList word) :
    reading.shape sql = reading.shape sql' := by
  have hopens : ∀ words : List String, words.all isKeyword = true →
      opensWith words sql = opensWith words sql' := by
    intro words hwords
    rw [List.all_eq_true] at hwords
    rw [opensWith, opensWith, Bool.eq_iff_iff, List.any_eq_true, List.any_eq_true]
    refine exists_congr fun word => and_congr_right fun hword => ?_
    rw [h word (hwords word hword)]
  cases reading with
  | rows | affected => rw [Reading.shape, Reading.shape]
  | byKeyword =>
    rw [Reading.shape, Reading.shape, hopens rowWords (by decide +kernel),
      hopens affectedWords (by decide +kernel)]

/-- **What follows a keyword after a space does not change its reading.** -/
theorem shape_keyword_append (reading : Reading) {keyword rest : String}
    (hkeyword : keyword ∈ keywords) (hrest : rest.toList.head? = some ' ') :
    reading.shape (keyword ++ rest) = reading.shape keyword :=
  shape_congr reading fun _ hword => opensWithWord_append hkeyword hrest hword

/-- **A statement whose keyword tells its shape**: the keyword stands first and a space after it. -/
inductive TellsShape (stmt : Statement) : Prop where
  | opens (keyword rest : String) (hkeyword : keyword ∈ keywords)
      (hsql : stmt.sql = keyword ++ rest) (hrest : rest.toList.head? = some ' ')
      (htold : Reading.byKeyword.shape keyword = stmt.reading.shape keyword)

theorem TellsShape.shape {stmt : Statement} (h : stmt.TellsShape) :
    Reading.byKeyword.shape stmt.sql = stmt.reading.shape stmt.sql := by
  obtain ⟨keyword, rest, hkeyword, hsql, hrest, htold⟩ := h
  rw [hsql, shape_keyword_append _ hkeyword hrest, shape_keyword_append _ hkeyword hrest, htold]

theorem TellsShape.head?_sql {stmt : Statement} (h : stmt.TellsShape) :
    ∃ ch, stmt.sql.toList.head? = some ch ∧ Text.isBlank ch = false := by
  obtain ⟨keyword, rest, hkeyword, hsql, -, -⟩ := h
  obtain ⟨ch, hhead, hvisible⟩ := head?_of_mem_keywords hkeyword
  refine ⟨ch, ?_, hvisible⟩
  rw [hsql, String.toList_append, List.head?_append, hhead, Option.some_or]

/-! ## Compiled statements -/

variable {c : Command} {options : Options} {args : List Params} {stmt : Statement}

/-- The keywords of a command, if there are any, keep a space before what follows. -/
theorem head?_modifierSql {rest : String} (h : rest.toList.head? = some ' ') :
    (options.modifierSql ++ rest).toList.head? = some ' ' := by
  rw [Options.modifierSql]
  cases options.modifiers with
  | nil => simpa using h
  | cons word words => simp [String.toList_join]

theorem tellsShape_of_eq {sql : String} {params : Params} {reading : Reading}
    (keyword rest : String) (hsql : sql = keyword ++ rest) (hkeyword : keyword ∈ keywords)
    (hrest : rest.toList.head? = some ' ')
    (htold : Reading.byKeyword.shape keyword = reading.shape keyword) :
    TellsShape ⟨sql, params, reading⟩ := .opens keyword rest hkeyword hsql hrest htold

theorem tellsShape_of_insert {table : String}
    (h : Statement.insert "INSERT" table options args = .ok stmt) : stmt.TellsShape := by
  rw [Statement.insert] at h
  split at h
  · cases h
  · cases h
    simp only [String.append_assoc]
    exact tellsShape_of_eq _ _ rfl (by decide) (head?_modifierSql (by simp)) (by decide +kernel)

theorem tellsShape_of_update (h : Statement.update c options args = .ok stmt) :
    stmt.TellsShape := by
  rw [Statement.update] at h
  split at h
  · cases h
  · split at h
    · cases h
    · cases h
      simp only [String.append_assoc]
      exact tellsShape_of_eq _ _ rfl (by decide) (head?_modifierSql (by simp)) (by decide +kernel)

/-- The verbs whose SQL opens with a word that does not tell its shape, or with any word. -/
def untoldVerbs : List Verb := [.replace, .call, .callAffected, .callRows, .query]

/-- **The keyword of a compiled statement tells its shape.** -/
theorem tellsShape_of_compile (hverb : ∀ verb ∈ c.verb, verb ∉ untoldVerbs)
    (h : c.compile options args = .ok stmt) : stmt.TellsShape := by
  rw [Command.compile] at h
  split at h
  · cases h
  · rw [Command.compileBody] at h
    cases hc : c.verb with
    | none =>
      rw [hc] at h
      cases h
      simp only [String.append_assoc]
      exact tellsShape_of_eq _ _ rfl (by decide) (head?_modifierSql (by simp)) (by decide +kernel)
    | some verb =>
      have htold := hverb verb hc
      rw [hc] at h
      cases verb
      case insert | logHandler => exact tellsShape_of_insert h
      case update => exact tellsShape_of_update h
      case delete =>
        cases h
        simp only [String.append_assoc]
        exact tellsShape_of_eq _ _ rfl (by decide) (head?_modifierSql (by simp)) (by decide +kernel)
      case count =>
        cases h
        exact tellsShape_of_eq "SELECT" (" COUNT(1) AS count FROM " ++ c.table ++ c.clauseSql)
          (by simp [← String.append_assoc]) (by decide) (by simp) (by decide +kernel)
      case «exists» =>
        cases h
        exact tellsShape_of_eq "SELECT"
          (" EXISTS(SELECT 1 FROM " ++ c.table ++ c.clauseSql ++ ") AS is_set")
          (by simp [← String.append_assoc]) (by decide) (by simp) (by decide +kernel)
      case columns =>
        cases h
        exact tellsShape_of_eq "SHOW" (" COLUMNS FROM " ++ c.table)
          (by simp [← String.append_assoc]) (by decide) (by simp) (by decide +kernel)
      case tables =>
        cases h
        exact tellsShape_of_eq "SHOW" " TABLES" rfl (by decide) rfl (by decide +kernel)
      case truncate =>
        cases h
        exact tellsShape_of_eq "TRUNCATE" (" " ++ c.table)
          (by simp [← String.append_assoc]) (by decide) (by simp) rfl
      case replace | call | callAffected | callRows | query => exact absurd htold (by decide)
      all_goals cases h

end Statement

namespace Command

/-! ## The text that asks for the SQL -/

/-- SQL written by hand on the connection of a command. -/
def byHand (c : Command) (sql : String) : Command :=
  { connection := c.connection, verb := some .query, clause := sql }

theorem wellFormed_byHand (c : Command) {sql : String} (h : Text.trimmed sql = sql) :
    (c.byHand sql).WellFormed where
  table := by simp [byHand]
  columns_ne_nil := by simp [byHand]
  columns := by simp [byHand, Columns.names]
  selector := .inr rfl
  row := by simp [byHand]
  options := by simp [byHand]
  clause := h

theorem render_byHand (c : Command) {sql : String} (h : sql ≠ "") :
    (c.byHand sql).render = "[" ++ toString c.connection.toNat ++ "]:query " ++ sql := by
  have hname : Verb.query.name = "query" := by decide
  simp [render, byHand, renderColumns, renderSelector, clauseSql, hname, h, ← String.toList_inj]

/-- **Compiled SQL agrees with the same SQL written by hand.**  Whatever command compiled to it, the
text that asks for the SQL is read as the verb `query` on the command's connection, with the SQL as
its clause; and given the compiled values, it compiles to the same SQL and the same values, and
its result has the same shape. -/
theorem compiled_sql_agrees_by_hand (c : Command) (args : List Params) (stmt : Statement)
    (hverb : ∀ verb ∈ c.verb, verb ∉ Statement.untoldVerbs)
    (h : c.compile (.resolve c.options) args = .ok stmt) (hends : EndsVisible stmt.sql.toList) :
    parse ("[" ++ toString c.connection.toNat ++ "]:query " ++ stmt.sql)
        = .ok (c.byHand stmt.sql) ∧
      ∃ typed, (c.byHand stmt.sql).compile (.resolve (c.byHand stmt.sql).options) [stmt.params]
          = .ok typed ∧
        typed.sql = stmt.sql ∧ typed.params = stmt.params ∧
        typed.reading.shape typed.sql = stmt.reading.shape stmt.sql := by
  have htells := Statement.tellsShape_of_compile hverb h
  obtain ⟨ch, hhead, hvisible⟩ := htells.head?_sql
  have hne : stmt.sql ≠ "" := by
    rintro hempty
    rw [hempty] at hhead
    cases hhead
  have htrim : Text.trimmed stmt.sql = stmt.sql := by
    rw [Text.trimmed, Text.trim_eq_self ?_ hends, String.ofList_toList]
    intro d hd
    rw [hhead] at hd
    exact Option.some.inj hd ▸ hvisible
  refine ⟨?_, ⟨stmt.sql, stmt.params, .byKeyword⟩, ?_, rfl, rfl, htells.shape⟩
  · rw [← render_byHand c hne]
    exact parse_render (wellFormed_byHand c htrim)
  · simp [compile, compileBody, needsTable, byHand, hne, Verb.needsTable, Statement.firstParams]

/-- A deletion whose clause has what might be taken for columns, a verb and options: typed by hand
it is still one clause, and its result is counted without the verb saying so. -/
theorem compiled_sql_agrees_by_hand_delete :
    let params : Params := .named (.ofList [("a", .int 3)])
    let stmt : Statement :=
      ⟨"DELETE LOW_PRIORITY FROM users WHERE (a = :a)/first > 1", params, .affected⟩
    ∃ c, tokenize "[3]users:del/low_priority WHERE (a = :a)/first > 1" {} = .ok c ∧
      c.compile (.resolve c.options) [params] = .ok stmt ∧
      parse ("[" ++ toString c.connection.toNat ++ "]:query " ++ stmt.sql)
        = .ok (c.byHand stmt.sql) ∧
      ∃ typed, (c.byHand stmt.sql).compile (.resolve (c.byHand stmt.sql).options) [stmt.params]
          = .ok typed ∧
        typed.reading.shape typed.sql = .affected := by
  intro params stmt
  let c : Command :=
    { connection := 3, table := "users", verb := some .delete, options := ["low_priority"]
      clause := "WHERE (a = :a)/first > 1" }
  have htokenize : tokenize "[3]users:del/low_priority WHERE (a = :a)/first > 1" {} = .ok c := by
    decide +kernel
  have hcompile : c.compile (.resolve c.options) [params] = .ok stmt := by decide +kernel
  have hends : EndsVisible stmt.sql.toList := by
    have hlast : stmt.sql.toList.getLast? = some '1' := by decide +kernel
    intro ch hch
    obtain rfl : '1' = ch := Option.some.inj (hlast.symm.trans hch)
    decide
  obtain ⟨hparse, typed, htyped, -, -, hshape⟩ :=
    compiled_sql_agrees_by_hand c [params] stmt (by simp [c, Statement.untoldVerbs]) hcompile hends
  exact ⟨c, htokenize, hcompile, hparse, typed, htyped, hshape⟩

end Command

end SqlShorthand
