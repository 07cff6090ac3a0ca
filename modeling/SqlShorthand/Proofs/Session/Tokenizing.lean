import SqlShorthand.Proofs.Command.RoundTrip
import SqlShorthand.Proofs.Command.Scope
import SqlShorthand.Proofs.Literal
import SqlShorthand.Proofs.Session.Coherence

/-!
# Proofs/Session/Tokenizing — a session reads a command as its connection's keys say

A command is read in two ways: by itself with a given key map, or by a session, which takes the keys
of the connection that the command names and lets its gateway write the row's id.  Where the gateway
writes ids as literals are written, the two are one (`tokenize_eq_tokenize`).

Which clause comes out is told by the written one alone (`Narrowed`): nothing but the word WHERE
adds nothing to the predicate, WHERE with conditions is merged with AND, and all else follows.  The
reader gives a trimmed clause and a row of digits, so none of these cases is blurred by blanks or
quotes.
-/

namespace SqlShorthand

namespace Command

/-! ## What the written clause is -/

/-- The word WHERE, in any case. -/
def IsWhereWord (word : List Char) : Prop := word.map Char.toLower = ['w', 'h', 'e', 'r', 'e']

/-- **A clause has conditions**: it is the word WHERE, at least one blank, and these, which neither
start nor end in a blank. -/
structure HasConditions (clause conditions : List Char) : Prop where
  intro ::
  split : ∃ word gap, clause = word ++ gap ++ conditions ∧ IsWhereWord word ∧ gap ≠ [] ∧
    ∀ c ∈ gap, Text.isBlank c = true
  ne_nil : conditions ≠ []
  trimmed : Text.trim conditions = conditions

/-- **What narrowing makes of a written clause.** -/
structure Narrowed (predicate written clause : String) : Prop where
  /-- Without conditions there is the predicate alone… -/
  alone : written = "" ∨ IsWhereWord written.toList → clause = "WHERE " ++ predicate
  /-- …and conditions join it… -/
  joined : ∀ conditions, HasConditions written.toList conditions →
    clause = "WHERE " ++ predicate ++ " AND " ++ .ofList conditions
  /-- …and else what is written follows it. -/
  followed : written ≠ "" → ¬IsWhereWord written.toList →
    (∀ conditions, ¬HasConditions written.toList conditions) →
    clause = "WHERE " ++ predicate ++ " " ++ written

section Clause

variable {ws s rest conditions : List Char}

/-- What follows a word: the text is the word, in some case, and the rest. -/
theorem afterKeyword?_eq_some_iff :
    afterKeyword? ws s = some rest ↔ ∃ w, s = w ++ rest ∧ w.map Char.toLower = ws := by
  constructor
  · intro h
    induction ws generalizing s with
    | nil => exact ⟨[], Option.some.inj h, rfl⟩
    | cons w ws ih =>
      cases s with
      | nil => cases h
      | cons c s =>
        rw [afterKeyword?] at h
        split at h
        · rename_i hc
          obtain ⟨v, rfl, rfl⟩ := ih h
          exact ⟨c :: v, rfl, by rw [List.map_cons, eq_of_beq hc]⟩
        · cases h
  · rintro ⟨w, rfl, hw⟩
    exact afterKeyword?_append rest hw

theorem trim_append_of_isBlank {gap : List Char} (h : ∀ c ∈ gap, Text.isBlank c = true)
    (s : List Char) : Text.trim (gap ++ s) = Text.trim s := by
  induction gap with
  | nil => rfl
  | cons c gap ih =>
    rw [List.cons_append, Text.trim_cons_of_isBlank _ (h c List.mem_cons_self)]
    exact ih fun d hd => h d (List.mem_cons_of_mem c hd)

theorem conditions?_of_isWhereWord (h : IsWhereWord s) : conditions? s = some [] := by
  have hafter := afterKeyword?_append [] h
  rw [List.append_nil] at hafter
  rw [conditions?, hafter]

/-- **Conditions are found.** -/
theorem HasConditions.conditions?_eq (h : HasConditions s conditions) :
    conditions? s = some conditions := by
  obtain ⟨word, gap, rfl, hword, hgap, hblank⟩ := h.split
  obtain ⟨c, gap, rfl⟩ := List.exists_cons_of_ne_nil hgap
  have htrim : Text.trim (gap ++ conditions) = conditions := by
    rw [trim_append_of_isBlank fun d hd => hblank d (List.mem_cons_of_mem c hd), h.trimmed]
  rw [conditions?, List.append_assoc, List.cons_append, afterKeyword?_append _ hword]
  simp only [hblank c List.mem_cons_self, if_true, htrim]

/-- A text that ends in a visible character is blanks and its trim. -/
theorem exists_gap_append_trim (hlast : ∀ c ∈ s.getLast?, Text.isBlank c = false) :
    ∃ gap, s = gap ++ Text.trim s ∧ ∀ c ∈ gap, Text.isBlank c = true := by
  have hsplit : s = s.takeWhile Text.isBlank ++ Text.trimStart s :=
    (List.takeWhile_append_dropWhile).symm
  have hend : ∀ c ∈ (Text.trimStart s).getLast?, Text.isBlank c = false := by
    intro c hc
    refine hlast c ?_
    rw [hsplit, List.getLast?_append, Option.mem_def.mp hc]
    rfl
  have htrim : Text.trim s = Text.trimStart s := by
    have h := Text.trimEnd_append [] hend
    rwa [List.append_nil, show Text.trimEnd [] = [] from rfl, List.append_nil] at h
  exact ⟨_, htrim ▸ hsplit, fun c hc => List.mem_takeWhile_imp hc⟩

/-- **What is found in a trimmed clause is there.** -/
theorem hasConditions_of_conditions? (hs : Text.trim s = s) (h : conditions? s = some conditions) :
    IsWhereWord s ∨ HasConditions s conditions := by
  rw [conditions?] at h
  split at h
  · rename_i hafter
    obtain ⟨w, rfl, hw⟩ := afterKeyword?_eq_some_iff.mp hafter
    exact .inl (by rwa [List.append_nil])
  · rename_i c rest hafter
    obtain ⟨w, rfl, hw⟩ := afterKeyword?_eq_some_iff.mp hafter
    split at h
    · rename_i hc
      obtain rfl := Option.some.inj h
      -- The clause ends in a visible character: that is where the conditions end.
      have hlast := Text.getLast?_trim (w ++ c :: rest)
      rw [hs, List.getLast?_append, List.getLast?_cons, Option.some_or] at hlast
      have hvisible : Text.isBlank (rest.getLast?.getD c) = false := hlast _ rfl
      have hrest : ∀ d ∈ rest.getLast?, Text.isBlank d = false := by
        intro d hd
        rwa [Option.mem_def.mp hd] at hvisible
      obtain ⟨gap, hgap, hblank⟩ := exists_gap_append_trim hrest
      refine .inr ⟨⟨w, c :: gap, ?_, hw, List.cons_ne_nil c gap, ?_⟩, fun hnil => ?_,
        Text.trim_trim rest⟩
      · rw [List.append_assoc, List.cons_append, ← hgap]
      · exact List.forall_mem_cons.mpr ⟨hc, hblank⟩
      · rw [hnil, List.append_nil] at hgap
        subst hgap
        have hall : ∀ d ∈ c :: rest, Text.isBlank d = true := List.forall_mem_cons.mpr ⟨hc, hblank⟩
        rw [hall _ (List.mem_of_getLast? List.getLast?_cons)] at hvisible
        cases hvisible
    · cases h
  · cases h

/-- **Narrowing a trimmed clause.** -/
theorem narrowed_scopedClause (predicate : String) {written : String}
    (h : Text.trim written.toList = written.toList) :
    Narrowed predicate written (scopedClause predicate written) where
  alone := by
    rintro (rfl | hword)
    · rfl
    · rw [scopedClause, h, conditions?_of_isWhereWord hword]
  joined := fun conditions hconditions => by
    obtain ⟨c, rest, rfl⟩ := List.exists_cons_of_ne_nil hconditions.ne_nil
    rw [scopedClause, h, hconditions.conditions?_eq]
  followed := fun hne hword hnone => by
    have hconditions : conditions? written.toList = none := by
      refine Option.eq_none_iff_forall_ne_some.mpr fun conditions hsome => ?_
      exact (hasConditions_of_conditions? h hsome).elim hword (hnone conditions)
    have hnil : written.toList.isEmpty = false := by
      simpa using hne
    rw [scopedClause, h, hconditions]
    simp only [hnil, Bool.false_eq_true, if_false, String.ofList_toList]

end Clause

end Command

namespace Session

variable {γ β σ : Type} [Gateway γ β] {s : Session γ β σ} {text : String} {c : Command}

/-! ## Reading in a session -/

/-- The keys by which a text is read: those of the connection that it names, and the standard ones
if that is not registered. -/
def keysNamed (s : Session γ β σ) (text : String) : KeyMap :=
  match Command.parse text with
  | .ok c => s.keysOf c.connection
  | .error _ => {}

/-- **A session reads a command as its keys say**, if ids are written as literals. -/
theorem tokenize_eq_tokenize (s : Session γ β σ)
    (hquote : ∀ row, Gateway.quote s.gateway row = Literal.quote row) (text : String) :
    s.tokenize text = Command.tokenize text (s.keysNamed text) := by
  rw [tokenize, Command.tokenize, keysNamed, funext hquote]
  cases Command.parse text <;> rfl

/-- The digits of a row are their own literal. -/
theorem quote_of_isDigits {row : String} (h : Command.IsDigits row) : Literal.quote row = row := by
  refine Literal.quote_of_isWholeNumber ⟨[], row.toList, rfl, .inl rfl, ?_, h.chars⟩
  simpa using h.ne_empty

/-- **What a text is read as, next to what is written.** -/
structure ReadAs (keys : KeyMap) (written c : Command) : Prop where
  /-- All but the clause is as it is written… -/
  parts : c = { written with clause := c.clause }
  /-- …and the clause too, unless a row of a table is selected. -/
  whole : c.rowId = none ∨ c.table = "" → c.clause = written.clause
  /-- A row is digits, which stand in the clause as they are. -/
  row : ∀ row, c.rowId = some row → c.table ≠ "" → Command.IsDigits row ∧
    Command.Narrowed (keys.get c.table ++ "=" ++ row) written.clause c.clause

theorem readAs_scopeRow {written : Command} (h : written.WellFormed) (keys : KeyMap) :
    ReadAs keys written (written.scopeRow keys Literal.quote) := by
  cases hrow : written.rowId with
  | none =>
    have hscope : written.scopeRow keys Literal.quote = written := by
      simp only [Command.scopeRow, hrow]
    rw [hscope]
    refine ⟨rfl, fun _ => rfl, fun row hsome => ?_⟩
    rw [hrow] at hsome
    cases hsome
  | some row =>
    by_cases htable : written.table = ""
    · have hscope : written.scopeRow keys Literal.quote = written := by
        simp only [Command.scopeRow, hrow, String.isEmpty_iff.mpr htable, if_true]
      rw [hscope]
      exact ⟨rfl, fun _ => rfl, fun _ _ hne => absurd htable hne⟩
    · have hdigits : Command.IsDigits row := h.row row hrow
      have hscope : written.scopeRow keys Literal.quote
          = written.scopeToRow (keys.get written.table) row := by
        simp only [Command.scopeRow, hrow, String.isEmpty_eq_false_iff.mpr htable,
          Bool.false_eq_true, if_false, quote_of_isDigits hdigits]
      have htrim : Text.trim written.clause.toList = written.clause.toList := by
        rw [← String.toList_ofList (l := Text.trim written.clause.toList)]
        exact congrArg String.toList h.clause
      rw [hscope]
      refine ⟨rfl, ?_, fun row' hrow' _ => ?_⟩
      · rintro (hnone | hempty)
        · cases hrow.symm.trans hnone
        · exact absurd hempty htable
      · obtain rfl : row = row' := Option.some.inj (hrow.symm.trans hrow')
        exact ⟨hdigits, Command.narrowed_scopedClause _ htrim⟩

/-- **A session and the reader agree on every text.**  Where the gateway writes ids as literals are
written, a session reads a text, or refuses it, as the reader does with the keys of the connection
that the text names.  A row that is selected stands as its digits, without quotes, behind its key;
the predicate stands alone, or before the conditions of a WHERE, or before whatever else is
written.  A command without row or table keeps its clause. -/
theorem session_reads_by_keys (s : Session γ β σ)
    (hquote : ∀ row, Gateway.quote s.gateway row = Literal.quote row) (text : String) :
    s.tokenize text = Command.tokenize text (s.keysNamed text) ∧
    ∀ c, s.tokenize text = .ok c →
      ∃ written, Command.parse text = .ok written ∧ ReadAs (s.keysNamed text) written c := by
  have heq := tokenize_eq_tokenize s hquote text
  refine ⟨heq, fun c hc => ?_⟩
  rw [heq, Command.tokenize] at hc
  split at hc
  · rename_i written hparse
    obtain rfl := Except.ok.inj hc
    exact ⟨written, hparse, readAs_scopeRow (Command.wellFormed_of_parse hparse) _⟩
  · cases hc

/-- A row by the key that its connection has for the table, before conditions under a small
`where`. -/
theorem session_reads_by_keys_uid :
    let config : ConnectionConfig := { host := "h", database := "d", user := "u", password := "" }
    let s : Session Counting Unit MemoryStore :=
      { gateway := {}
        registry := { connections := [{ id := 2, config, keys := ⟨[("users", "uid")]⟩ }] } }
    let c : Command :=
      { connection := 2, table := "users", rowId := some "007", options := ["first"]
        clause := "WHERE uid=007 AND a = 1" }
    s.tokenize "[2]users.007/first where  a = 1" = .ok c ∧
      Command.tokenize "[2]users.007/first where  a = 1" ⟨[("users", "uid")]⟩ = .ok c ∧
      Command.Narrowed "uid=007" "where  a = 1" c.clause := by
  intro config s c
  have hc : s.tokenize "[2]users.007/first where  a = 1" = .ok c := by decide +kernel
  obtain ⟨heq, hread⟩ := session_reads_by_keys s (fun _ => rfl) "[2]users.007/first where  a = 1"
  have hkeys : s.keysNamed "[2]users.007/first where  a = 1" = ⟨[("users", "uid")]⟩ := by
    decide +kernel
  have hparse : Command.parse "[2]users.007/first where  a = 1"
      = .ok { c with clause := "where  a = 1" } := by decide +kernel
  obtain ⟨written, hwritten, hreadAs⟩ := hread c hc
  obtain rfl := Except.ok.inj (hparse.symm.trans hwritten)
  refine ⟨hc, ?_, ?_⟩
  · rw [← hkeys, ← heq, hc]
  · have hrow := hreadAs.row "007" rfl (by decide)
    rw [hkeys] at hrow
    exact hrow.2

end Session

end SqlShorthand
