import SqlShorthand.Command.Scope
import SqlShorthand.Proofs.Condition

/-!
# Proofs/Command/Scope — what a narrowed clause asks of a row

Narrowing puts a predicate in front of the text of a clause.  For a clause that is WHERE and a
condition, two things decide what comes out:

* whether a blank follows WHERE — only then is the word taken off, and the result has one WHERE;
* where the first OR stands — the predicate joins the first disjunct only (`holds_guarded`).

`narrows_scope_iff` puts the two together: it says exactly when the narrowed clause holds for the
rows that satisfy the predicate and the condition.
-/

open SqlShorthand.Condition

namespace SqlShorthand.Command

/-! ## The text of a narrowed clause -/

theorem afterKeyword?_append {w ws : List Char} (s : List Char) (h : w.map Char.toLower = ws) :
    afterKeyword? ws (w ++ s) = some s := by
  induction w generalizing ws with
  | nil =>
    subst h
    rfl
  | cons c w ih =>
    subst h
    rw [List.map_cons, List.cons_append, afterKeyword?, if_pos (by simp)]
    exact ih rfl

/-- Trimming a clause that starts with WHERE leaves the word alone. -/
theorem trim_keyword_append {w : List Char} (s : List Char) (hk : keyword? w = some .filter) :
    Text.trim (w ++ s) = w ++ Text.trimEnd s := by
  have hvisible : ∀ c ∈ w, Text.isBlank c = false := fun c hc =>
    Text.isBlank_of_isNameChar (isNameChar_of_keyword hk c hc)
  have hstart : Text.trimStart (w ++ s) = w ++ s := by
    cases w with
    | nil => exact absurd hk nofun
    | cons c w => exact Text.trimStart_cons (w ++ s) (hvisible c List.mem_cons_self)
  rw [Text.trim, hstart]
  exact Text.trimEnd_append s fun c hc => hvisible c (List.mem_of_getLast? hc)

/-- What WHERE leaves of a clause. -/
theorem conditions?_append {w : List Char} (s : List Char) (hk : keyword? w = some .filter) :
    conditions? (w ++ s) =
      match s with
      | [] => some []
      | c :: rest => if Text.isBlank c then some (Text.trim rest) else none := by
  rw [conditions?, afterKeyword?_append s (keyword?_filter.mp hk)]
  cases s <;> rfl

/-- **After a blank the conditions are what the clause asked.** -/
theorem scopedClause_of_isBlank (predicate : String) {clause : String} {w s : List Char} {c : Char}
    {ts : List Tree} (hclause : clause.toList = w ++ c :: s) (hk : keyword? w = some .filter)
    (hc : Text.isBlank c = true) (hs : read? s = some ts) (hne : ts ≠ []) :
    ∃ conditions, scopedClause predicate clause =
      "WHERE " ++ predicate ++ " AND " ++ .ofList conditions ∧ read? conditions = some ts := by
  have hread : read? (Text.trimEnd (c :: s)) = some ts := by
    rw [read?_trimEnd, read?_cons_of_isBlank s hc, hs]
  rw [scopedClause, hclause, trim_keyword_append (c :: s) hk, conditions?_append _ hk]
  -- the end of the clause is visible, or the clause would ask nothing
  cases htrim : Text.trimEnd (c :: s) with
  | nil =>
    rw [htrim] at hread
    exact absurd (Option.some.inj hread).symm hne
  | cons b rest =>
    have hb : b = c := by
      obtain ⟨t, ht⟩ := Text.trimEnd_isPrefix (c :: s)
      rw [htrim, List.cons_append] at ht
      exact (List.cons.inj ht).1
    subst hb
    rw [htrim, read?_cons_of_isBlank rest hc, ← read?_trim] at hread
    simp only [hc, if_true]
    cases hrest : Text.trim rest with
    | nil =>
      rw [hrest] at hread
      exact absurd (Option.some.inj hread).symm hne
    | cons a as =>
      rw [hrest] at hread
      exact ⟨a :: as, rfl, hread⟩

/-- **Without a blank the word WHERE stays**, behind the predicate. -/
theorem scopedClause_of_not_isBlank (predicate : String) {clause : String} {w s : List Char}
    {c : Char} (hclause : clause.toList = w ++ c :: s) (hk : keyword? w = some .filter)
    (hc : Text.isBlank c = false) :
    scopedClause predicate clause =
      "WHERE " ++ predicate ++ " " ++ .ofList (w ++ Text.trimEnd (c :: s)) := by
  have hvisible : Text.trimEnd (c :: s) = c :: Text.trimEnd s := by
    refine Text.trimEnd_append (s := [c]) s fun b hb => ?_
    rw [List.getLast?_singleton, Option.mem_some_iff] at hb
    rwa [← hb]
  have hne : (w ++ c :: Text.trimEnd s).isEmpty = false := by simp
  rw [scopedClause, hclause, trim_keyword_append (c :: s) hk, conditions?_append _ hk, hvisible]
  simp only [hc, hne, Bool.false_eq_true, if_false]

/-! ## The condition of a narrowed clause -/

section Guarded

variable {p ts : List Tree} {truth : List Tree → Prop}

/-- The first disjunct takes in the predicate; the others stay as they are. -/
theorem disjuncts_guarded (hp : IsComparison p) {d : List Tree} {ds : List (List Tree)}
    (hd : disjuncts ts = d :: ds) :
    disjuncts (p ++ .keyword .conj :: ts) = (p ++ .keyword .conj :: d) :: ds := by
  have hfree : ∀ t ∈ p ++ [.keyword .conj], t.is .disj = false := by
    intro t ht
    rcases List.mem_append.mp ht with ht | ht
    · exact hp.plain t ht .disj
    · rw [List.mem_singleton.mp ht]
      rfl
  have h := Text.splitOnP_append (t := ts) hfree
  rw [disjuncts] at hd ⊢
  rw [hd, List.append_assoc] at h
  simpa using h

/-- **What `p AND ts` asks of a row**, with SQL precedence. -/
theorem holds_guarded (hp : IsComparison p) {d : List Tree} {ds : List (List Tree)}
    (hd : disjuncts ts = d :: ds) :
    Holds truth (p ++ .keyword .conj :: ts) ↔
      truth p ∧ Holds truth d ∨ ∃ e ∈ ds, Holds truth e := by
  have hfree : ∀ t ∈ d, t.is .disj = false := by
    have hmem : d ∈ disjuncts ts := by
      rw [hd]
      exact List.mem_cons_self
    exact fun t ht => (Text.mem_splitOnP hmem ht).2
  rw [holds_iff_disjunct, disjuncts_guarded hp hd]
  simp only [List.mem_cons, exists_eq_or_imp]
  rw [holds_and (fun t ht => hp.plain t ht .disj) hfree, holds_comparison hp]

theorem isCondition_guarded (hp : IsComparison p) (hts : IsCondition ts) :
    IsCondition (p ++ .keyword .conj :: ts) := by
  obtain ⟨h⟩ := hts
  obtain ⟨d, ds, hd⟩ := List.exists_cons_of_ne_nil (List.splitOnP_ne_nil (Tree.is .disj) ts)
  have hsplit : conjuncts (p ++ .keyword .conj :: d) = p :: conjuncts d :=
    List.splitOnP_append_cons_of_forall_mem (fun t ht => hp.plain t ht .conj) _ rfl d
  refine .intro fun e he o ho => ?_
  rw [disjuncts_guarded hp hd] at he
  rw [disjuncts, hd] at h
  rcases List.mem_cons.mp he with rfl | he
  · rw [hsplit] at ho
    rcases List.mem_cons.mp ho with rfl | ho
    · exact .comparison hp
    · exact h d List.mem_cons_self o ho
  · exact h e (List.mem_cons_of_mem d he) o ho

/-- A condition does not hold a second WHERE. -/
theorem not_isCondition_filter (hp : IsComparison p) :
    ¬ IsCondition (p ++ .keyword .filter :: ts) := by
  rintro ⟨h⟩
  have hfree : ∀ k, k ≠ .filter → ∀ t ∈ p ++ [.keyword .filter], t.is k = false := by
    intro k hk t ht
    rcases List.mem_append.mp ht with ht | ht
    · exact hp.plain t ht k
    · rw [List.mem_singleton.mp ht, Tree.is, beq_eq_false_iff_ne]
      exact hk.symm
  obtain ⟨d, ds, hd⟩ := List.exists_cons_of_ne_nil (List.splitOnP_ne_nil (Tree.is .disj) ts)
  obtain ⟨o, os, ho⟩ := List.exists_cons_of_ne_nil (List.splitOnP_ne_nil (Tree.is .conj) d)
  have hdisj := Text.splitOnP_append (t := ts) (hfree .disj (by decide))
  have hconj := Text.splitOnP_append (t := d) (hfree .conj (by decide))
  rw [hd, List.append_assoc] at hdisj
  rw [ho] at hconj
  -- the second WHERE is in the first operand, which is then no comparison
  have hoperand : IsOperand (p ++ [.keyword .filter] ++ o) := by
    refine h (p ++ [.keyword .filter] ++ d) ?_ _ ?_
    · rw [disjuncts]
      exact hdisj ▸ List.mem_cons_self
    · rw [conjuncts, hconj]
      exact List.mem_cons_self
  have hmem : Tree.keyword .filter ∈ p ++ [.keyword .filter] ++ o := by simp
  generalize p ++ [.keyword .filter] ++ o = operand at hoperand hmem
  cases hoperand with
  | comparison hcmp => exact absurd (hcmp.plain _ hmem .filter) (by decide)
  | group _ => simp at hmem

end Guarded

/-! ## When narrowing narrows -/

/-- A blank follows the five letters of WHERE. -/
def Spaced (clause : List Char) : Prop := ∀ c ∈ (clause.drop 5).head?, Text.isBlank c = true

/-- The clause has one WHERE, and its condition holds for a row exactly when the comparison `p` and
the condition `ts` both do. -/
def Narrows {Row : Type} (truth : Row → List Tree → Prop) (p ts : List Tree) (clause : String) :
    Prop :=
  ∃ us, IsWhere clause.toList us ∧
    ∀ row, Holds (truth row) us ↔ truth row p ∧ Holds (truth row) ts

section Narrowing

variable {Row : Type} {truth : Row → List Tree → Prop} {p ts us : List Tree}
  {predicate clause : String}

/-- A clause with the predicate after WHERE, and more text after a blank. -/
theorem isWhere_predicate (s : List Char) (hread : read? predicate.toList = some p) :
    IsWhere ("WHERE".toList ++ ' ' :: (predicate.toList ++ ' ' :: s)) us ↔
      (read? s).map (p ++ ·) = some us ∧ IsCondition us := by
  have hwhere : keyword? "WHERE".toList = some .filter := by decide
  have hspace : isWordChar ' ' = false := by decide
  rw [isWhere_append hwhere hspace, read?_cons_of_isBlank _ rfl, read?_append_cons hread rfl]

/-- **After a blank, the predicate guards the condition.** -/
theorem isWhere_scopedClause_of_isBlank {w s : List Char} {c : Char}
    (hread : read? predicate.toList = some p) (hp : IsComparison p)
    (heq : clause.toList = w ++ c :: s) (hk : keyword? w = some .filter)
    (hc : Text.isBlank c = true) (hs : read? s = some ts) (hts : IsCondition ts) :
    IsWhere (scopedClause predicate clause).toList us ↔ us = p ++ .keyword .conj :: ts := by
  obtain ⟨conditions, htext, hconditions⟩ :=
    scopedClause_of_isBlank predicate heq hk hc hs (isCondition_ne_nil hts)
  have hchars : (scopedClause predicate clause).toList =
      "WHERE".toList ++ ' ' :: (predicate.toList ++ ' ' :: ("AND".toList ++ ' ' :: conditions)) := by
    rw [htext]
    simp
  have hand : read? ("AND".toList ++ ' ' :: conditions) = some (.keyword .conj :: ts) := by
    have h : read? "AND".toList = some [.keyword .conj] := rfl
    rw [read?_append_cons h rfl, hconditions]
    rfl
  rw [hchars, isWhere_predicate _ hread, hand]
  constructor
  · rintro ⟨h, -⟩
    exact (Option.some.inj h).symm
  · rintro rfl
    exact ⟨rfl, isCondition_guarded hp hts⟩

/-- **Without a blank, there is a second WHERE**, and no condition. -/
theorem not_isWhere_scopedClause {w s : List Char} {c : Char}
    (hread : read? predicate.toList = some p) (hp : IsComparison p)
    (heq : clause.toList = w ++ c :: s) (hk : keyword? w = some .filter)
    (hc : Text.isBlank c = false) (hword : isWordChar c = false) (hs : read? (c :: s) = some ts) :
    ¬ IsWhere (scopedClause predicate clause).toList us := by
  have hchars : (scopedClause predicate clause).toList =
      "WHERE".toList ++ ' ' :: (predicate.toList ++ ' ' :: (w ++ Text.trimEnd (c :: s))) := by
    rw [scopedClause_of_not_isBlank predicate heq hk hc]
    simp
  have hbody : read? (w ++ Text.trimEnd (c :: s)) = some (.keyword .filter :: ts) := by
    have hw : ∀ a ∈ w, isWordChar a = true := fun a ha => by
      rw [isWordChar, isNameChar_of_keyword hk a ha, Bool.true_or, Bool.true_or]
    have hhead : ∀ a ∈ (Text.trimEnd (c :: s)).head?, isWordChar a = false := by
      intro a ha
      obtain ⟨t, ht⟩ := Text.trimEnd_isPrefix (c :: s)
      have hcons : (Text.trimEnd (c :: s) ++ t).head? = some a := by
        rw [List.head?_append, ha]
        rfl
      rw [ht] at hcons
      rwa [← Option.some.inj hcons]
    rw [read?_word_append (wordToken_of_keyword hk) rfl hw hhead, read?_trimEnd, hs]
    rfl
  rw [hchars, isWhere_predicate _ hread, hbody]
  rintro ⟨h, hcond⟩
  rw [← Option.some.inj h] at hcond
  exact not_isCondition_filter hp hcond

/-- A guard on the first of two alternatives guards both when the second implies it. -/
theorem guard_iff {P D L : Prop} : (P ∧ D ∨ L ↔ P ∧ (D ∨ L)) ↔ (L → P) := by
  constructor
  · intro h hl
    exact (h.mp (Or.inr hl)).1
  · intro h
    constructor
    · rintro (⟨hp, hd⟩ | hl)
      · exact ⟨hp, Or.inl hd⟩
      · exact ⟨h hl, Or.inr hl⟩
    · rintro ⟨hp, hd | hl⟩
      · exact Or.inl ⟨hp, hd⟩
      · exact Or.inr hl

/-- **A guarded condition narrows** as far as its later disjuncts imply the guard. -/
theorem narrows_guarded_iff (hp : IsComparison p)
    (hwhere : ∀ us, IsWhere clause.toList us ↔ us = p ++ .keyword .conj :: ts) :
    Narrows truth p ts clause ↔
      ∀ d ∈ (disjuncts ts).tail, ∀ row, Holds (truth row) d → truth row p := by
  obtain ⟨d, ds, hd⟩ := List.exists_cons_of_ne_nil (List.splitOnP_ne_nil (Tree.is .disj) ts)
  have hts : ∀ row, Holds (truth row) ts ↔
      Holds (truth row) d ∨ ∃ e ∈ ds, Holds (truth row) e := by
    intro row
    rw [holds_iff_disjunct, disjuncts, hd]
    simp only [List.mem_cons, exists_eq_or_imp]
  have hrow : ∀ row, (Holds (truth row) (p ++ .keyword .conj :: ts) ↔
      truth row p ∧ Holds (truth row) ts) ↔ ((∃ e ∈ ds, Holds (truth row) e) → truth row p) := by
    intro row
    rw [holds_guarded hp hd, hts row, guard_iff]
  rw [Narrows, disjuncts, hd, List.tail_cons]
  simp only [hwhere, exists_eq_left, hrow]
  constructor
  · intro h e he row hholds
    exact h row ⟨e, he, hholds⟩
  · rintro h row ⟨e, he, hholds⟩
    exact h e he row hholds

theorem narrows_scopedClause_iff (hread : read? predicate.toList = some p) (hp : IsComparison p)
    (hclause : IsWhere clause.toList ts) :
    Narrows truth p ts (scopedClause predicate clause) ↔
      Spaced clause.toList ∧
        ∀ d ∈ (disjuncts ts).tail, ∀ row, Holds (truth row) d → truth row p := by
  obtain ⟨w, body, heq, hk, hbody, hts, hcond⟩ := hclause
  cases body with
  | nil => exact absurd (Option.some.inj hts).symm (isCondition_ne_nil hcond)
  | cons c s =>
    have hspaced : Spaced clause.toList ↔ Text.isBlank c = true := by
      rw [Spaced, heq, List.drop_left' (length_of_keyword hk)]
      simp
    rw [hspaced]
    cases hc : Text.isBlank c with
    | false =>
      refine iff_of_false ?_ fun h => Bool.noConfusion h.1
      rintro ⟨us, hus, -⟩
      exact not_isWhere_scopedClause hread hp heq hk hc (hbody c rfl) hts hus
    | true =>
      rw [read?_cons_of_isBlank s hc] at hts
      rw [narrows_guarded_iff hp fun us =>
        isWhere_scopedClause_of_isBlank hread hp heq hk hc hts hcond]
      exact (and_iff_right rfl).symm

end Narrowing

/-- The text is one comparison, read as `p`. -/
structure Compares (text : String) (p : List Tree) : Prop where
  reads : read? text.toList = some p
  isComparison : IsComparison p

/-- **When narrowing narrows.**  Take a command whose clause is WHERE and a condition, and a key
whose predicate is one comparison.  The narrowed clause has one WHERE and holds for exactly the rows
that satisfy both if and only if a blank follows WHERE and every disjunct after the first implies
the predicate — so always when there is no OR outside parentheses. -/
theorem narrows_scope_iff {Row : Type} (truth : Row → List Tree → Prop) (c : Command)
    (key : String) {ts : List Tree} (hc : IsWhere c.clause.toList ts) :
    (∀ literal p, Compares (key ++ "=" ++ literal) p →
      (Narrows truth p ts (c.scopeToRow key literal).clause ↔
        Spaced c.clause.toList ∧
          ∀ d ∈ (disjuncts ts).tail, ∀ row, Holds (truth row) d → truth row p)) ∧
    (∀ p, Compares (key ++ "=:" ++ key) p →
      (Narrows truth p ts (c.scopeToModelKey key).clause ↔
        Spaced c.clause.toList ∧
          ∀ d ∈ (disjuncts ts).tail, ∀ row, Holds (truth row) d → truth row p)) := by
  constructor
  · intro literal p hp
    exact narrows_scopedClause_iff hp.reads hp.isComparison hc
  · intro p hp
    exact narrows_scopedClause_iff hp.reads hp.isComparison hc

/-- **The predicate of a name is one comparison.** -/
theorem compares_key {key literal : String} {p : List Tree} (hne : key.toList ≠ [])
    (hname : ∀ c ∈ key.toList, isWordChar c = true) (hk : keyword? key.toList = none)
    (hliteral : read? literal.toList = some p) (hplain : ∀ t ∈ p, ∀ k, t.is k = false) :
    Compares (key ++ "=" ++ literal) (.piece key.toList :: .piece ['='] :: p) where
  reads := by
    have hchars : (key ++ "=" ++ literal).toList = key.toList ++ '=' :: literal.toList := by simp
    have hequals : ∀ c ∈ ('=' :: literal.toList).head?, isWordChar c = false := by
      intro c hc
      rw [← Option.some.inj hc]
      decide
    rw [hchars, read?_word_append (wordToken_of_piece hne hk) rfl hname hequals,
      read?_symbol_cons _ (by decide) (by decide) (by decide) (by decide), hliteral]
    rfl
  isComparison :=
    { ne_nil := by simp
      plain := by
        intro t ht k
        rcases List.mem_cons.mp ht with rfl | ht
        · rfl
        rcases List.mem_cons.mp ht with rfl | ht
        · rfl
        · exact hplain t ht k
      ne_group := by simp }

/-- The trees of a text without keywords and parentheses. -/
def pieces (texts : List String) : List Tree := texts.map fun text => .piece text.toList

theorem isComparison_pieces {texts : List String} (h : texts ≠ []) : IsComparison (pieces texts) where
  ne_nil := by simpa [pieces] using h
  plain := by
    intro t ht k
    obtain ⟨text, -, rfl⟩ := List.mem_map.mp ht
    rfl
  ne_group := by
    intro inner heq
    have hmem : Tree.group inner ∈ pieces texts := by
      rw [heq]
      exact List.mem_singleton_self _
    obtain ⟨text, -, htext⟩ := List.mem_map.mp hmem
    exact Tree.noConfusion htext

/-- A clause with one comparison, narrowed to a row and to a model's key. -/
theorem narrows_scope_iff_active :
    Narrows (fun row : List Tree → Prop => row) (pieces ["user_id", "=", "'7'"])
        (pieces ["active", "=", "1"])
        (({ clause := "where active = 1" } : Command).scopeToRow "user_id" "'7'").clause ∧
      Narrows (fun row : List Tree → Prop => row) (pieces ["user_id", "=", ":", "user_id"])
        (pieces ["active", "=", "1"])
        (({ clause := "where active = 1" } : Command).scopeToModelKey "user_id").clause := by
  have hactive : IsComparison (pieces ["active", "=", "1"]) := isComparison_pieces (List.cons_ne_nil _ _)
  have hc : IsWhere ({ clause := "where active = 1" } : Command).clause.toList
      (pieces ["active", "=", "1"]) :=
    (isWhere_append (w := "where".toList) (s := "active = 1".toList) (c := ' ') (by decide)
      (by decide)).mpr ⟨rfl, isCondition_comparison hactive⟩
  have hrow : Compares ("user_id" ++ "=" ++ "'7'") (pieces ["user_id", "=", "'7'"]) :=
    compares_key (by decide) (List.all_eq_true.mp (by decide)) (by decide) (rfl) (by simp [Tree.is])
  have hkey : Compares ("user_id" ++ "=:" ++ "user_id") (pieces ["user_id", "=", ":", "user_id"]) := by
    have h : Compares ("user_id" ++ "=" ++ ":user_id") (pieces ["user_id", "=", ":", "user_id"]) :=
      compares_key (by decide) (List.all_eq_true.mp (by decide)) (by decide) (rfl) (by simp [Tree.is])
    exact h
  have hspaced : Spaced "where active = 1".toList := by
    intro c hc
    rw [← Option.some.inj hc]
    decide
  obtain ⟨hfst, hsnd⟩ := narrows_scope_iff (fun row : List Tree → Prop => row) _ "user_id" hc
  have hlater : (disjuncts (pieces ["active", "=", "1"])).tail = [] := rfl
  rw [hlater] at hfst hsnd
  exact ⟨(hfst _ _ hrow).mpr ⟨hspaced, List.forall_mem_nil _⟩,
    (hsnd _ hkey).mpr ⟨hspaced, List.forall_mem_nil _⟩⟩

/-- **Narrowing can fail**: an OR lets rows past the predicate, and a parenthesis right after WHERE
leaves two of that word. -/
theorem scopeToRow_not_narrows :
    (Compares "id=7" (pieces ["id", "=", "7"]) ∧
      IsWhere "WHERE a = 1 OR b = 2".toList
        (pieces ["a", "=", "1"] ++ .keyword .disj :: pieces ["b", "=", "2"]) ∧
      IsWhere "WHERE(a = 1)".toList [.group (pieces ["a", "=", "1"])]) ∧
    ¬ Narrows (fun row : List Tree → Prop => row) (pieces ["id", "=", "7"])
        (pieces ["a", "=", "1"] ++ .keyword .disj :: pieces ["b", "=", "2"])
        (({ clause := "WHERE a = 1 OR b = 2" } : Command).scopeToRow "id" "7").clause ∧
    ¬ Narrows (fun row : List Tree → Prop => row) (pieces ["id", "=", "7"])
        [.group (pieces ["a", "=", "1"])]
        (({ clause := "WHERE(a = 1)" } : Command).scopeToRow "id" "7").clause := by
  have hid : Compares "id=7" (pieces ["id", "=", "7"]) := ⟨rfl, isComparison_pieces (List.cons_ne_nil _ _)⟩
  have ha : IsCondition (pieces ["a", "=", "1"]) :=
    isCondition_comparison (isComparison_pieces (List.cons_ne_nil _ _))
  have hb : IsComparison (pieces ["b", "=", "2"]) := isComparison_pieces (List.cons_ne_nil _ _)
  have hor : IsWhere "WHERE a = 1 OR b = 2".toList
      (pieces ["a", "=", "1"] ++ .keyword .disj :: pieces ["b", "=", "2"]) :=
    (isWhere_append (w := "WHERE".toList) (s := "a = 1 OR b = 2".toList) (c := ' ') (by decide)
      (by decide)).mpr ⟨rfl, isCondition_or ha (isCondition_comparison hb)⟩
  have hgroup : IsWhere "WHERE(a = 1)".toList [.group (pieces ["a", "=", "1"])] :=
    (isWhere_append (w := "WHERE".toList) (s := "a = 1)".toList) (c := '(') (by decide)
      (by decide)).mpr ⟨rfl, isCondition_group ha⟩
  refine ⟨⟨hid, hor, hgroup⟩, fun h => ?_, fun h => ?_⟩
  · obtain ⟨-, hlater⟩ := (narrows_scopedClause_iff hid.reads hid.isComparison hor).mp h
    have hmem : pieces ["b", "=", "2"] ∈
        (disjuncts (pieces ["a", "=", "1"] ++ .keyword .disj :: pieces ["b", "=", "2"])).tail := by
      rw [disjuncts, List.splitOnP_append_cons _ _ rfl]
      exact List.mem_cons_self
    -- a row of which `b = 2` is true, and nothing else
    have hrow := hlater _ hmem (· = pieces ["b", "=", "2"]) ((holds_comparison hb).mpr rfl)
    exact absurd hrow (by simp [pieces])
  · obtain ⟨hspaced, -⟩ := (narrows_scopedClause_iff hid.reads hid.isComparison hgroup).mp h
    exact absurd (hspaced '(' rfl) (by decide)

end SqlShorthand.Command
