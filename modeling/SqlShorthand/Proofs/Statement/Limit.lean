import SqlShorthand.Proofs.Statement.Keyword
import SqlShorthand.Session.Exec

/-!
# Proofs/Statement/Limit — a LIMIT that is there, and one that is added

Whether SQL has a LIMIT is read off its text.  `hasLimit_iff` says what is read: somewhere at a word
boundary stand the letters of LIMIT in any case, a blank, and a digit or a comma (`HasLimit`).

What is added at the end of SQL is a LIMIT in this sense (`hasLimit_appendLimit`), whatever the SQL
and however it ends.  So SQL is given a LIMIT once at most: neither its page nor its first row can be
paged again, and asking for the first row twice is asking for it once.
-/

namespace SqlShorthand

namespace Text

/-! ## Letters in any case -/

/-- **A word boundary** between two texts: a word character stands on one side only. -/
def IsBoundary (before after : List Char) : Prop :=
  before.getLast?.any isWord ≠ after.head?.any isWord

/-- What is left after the letters of a word is what follows them. -/
theorem afterLetters?_eq_some_iff {word s rest : List Char} :
    afterLetters? word s = some rest ↔
      ∃ letters, s = letters ++ rest ∧ letters.map foldLetter = word := by
  induction word generalizing s with
  | nil => simp [afterLetters?]
  | cons w word ih =>
    cases s with
    | nil =>
      simp only [afterLetters?, reduceCtorEq, false_iff]
      rintro ⟨letters, hs, hletters⟩
      rw [(List.append_eq_nil_iff.mp hs.symm).1] at hletters
      cases hletters
    | cons c s =>
      rw [afterLetters?]
      constructor
      · intro h
        split at h
        · rename_i hc
          obtain ⟨letters, rfl, rfl⟩ := ih.mp h
          exact ⟨c :: letters, rfl, by rw [List.map_cons, eq_of_beq hc]⟩
        · cases h
      · rintro ⟨letters, hs, hletters⟩
        obtain ⟨a, letters, rfl, rfl, rfl⟩ := List.map_eq_cons_iff.mp hletters
        obtain ⟨rfl, rfl⟩ := List.cons.inj hs
        rw [if_pos (beq_self_eq_true _), ih]
        exact ⟨letters, rfl, rfl⟩

/-- Of the small letters, only `s` and `k` have a form outside ASCII. -/
theorem foldLetter_eq_iff {c w : Char} (hs : w ≠ 's') (hk : w ≠ 'k') (hw : w.toNat < 128) :
    foldLetter c = w ↔ c.toLower = w := by
  have hself : ∀ n ∈ [0x17F, 0x212A], ¬(Char.ofNat n).toLower.toNat < 128 := by decide
  rw [foldLetter]
  split
  · rename_i hc
    have hlong := hself c.toNat (by simp [eq_of_beq hc])
    rw [Char.ofNat_toNat] at hlong
    exact iff_of_false hs.symm fun h => hlong (h ▸ hw)
  · split
    · rename_i hc
      have hkelvin := hself c.toNat (by simp [eq_of_beq hc])
      rw [Char.ofNat_toNat] at hkelvin
      exact iff_of_false hk.symm fun h => hkelvin (h ▸ hw)
    · rfl

theorem map_foldLetter_eq_iff {letters word : List Char}
    (hword : ∀ w ∈ word, w ≠ 's' ∧ w ≠ 'k' ∧ w.toNat < 128) :
    letters.map foldLetter = word ↔ letters.map Char.toLower = word := by
  induction word generalizing letters with
  | nil => simp
  | cons w word ih =>
    obtain ⟨⟨hs, hk, hw⟩, hword⟩ := List.forall_mem_cons.mp hword
    cases letters with
    | nil => simp
    | cons c letters =>
      rw [List.map_cons, List.map_cons, List.cons.injEq, List.cons.injEq,
        foldLetter_eq_iff hs hk hw, ih hword]

theorem toNat_lt_of_isNameChar {c : Char} (h : isNameChar c = true) : c.toNat < 128 := by
  have hrange := toNat_of_isNameChar h
  omega

theorem isBlank_of_isDigit {c : Char} (h : isDigit c = true) : isBlank c = false := by
  have hcodes : ∀ n ∈ blankCodes, isDigit (Char.ofNat n) = false := by decide +kernel
  refine Bool.eq_false_iff.mpr fun hblank => ?_
  have hc := hcodes c.toNat (mem_blankCodes hblank)
  rw [Char.ofNat_toNat, h] at hc
  cases hc

end Text

namespace Statement

/-! ## What counts as a LIMIT -/

/-- **A LIMIT as it is written**: the letters in any case, blanks, and digits or commas. -/
inductive IsLimit : List Char → Prop where
  | mk {letters blanks numbers : List Char}
      (hletters : letters.map Char.toLower = ['l', 'i', 'm', 'i', 't'])
      (hblanks : blanks ≠ []) (hblank : ∀ c ∈ blanks, Text.isBlank c = true)
      (hnumbers : numbers ≠ []) (hnumber : ∀ c ∈ numbers, Text.isDigit c = true ∨ c = ',') :
      IsLimit (letters ++ blanks ++ numbers)

/-- **A text has a LIMIT**: one that starts at a word boundary. -/
def HasLimit (s : List Char) : Prop :=
  ∃ before limit after, s = before ++ (limit ++ after) ∧
    Text.IsBoundary before (limit ++ after) ∧ IsLimit limit

/-- No letter of LIMIT has a form outside ASCII. -/
theorem map_foldLetter_limit {letters : List Char} :
    letters.map Text.foldLetter = ['l', 'i', 'm', 'i', 't'] ↔
      letters.map Char.toLower = ['l', 'i', 'm', 'i', 't'] :=
  Text.map_foldLetter_eq_iff (by simp)

theorem isBlank_of_number {c : Char} (h : Text.isDigit c = true ∨ c = ',') :
    Text.isBlank c = false := by
  rcases h with h | rfl
  · exact Text.isBlank_of_isDigit h
  · decide

theorem limitHere_iff {s : List Char} :
    limitHere s = true ↔ ∃ limit after, s = limit ++ after ∧ IsLimit limit := by
  constructor
  · intro h
    rw [limitHere] at h
    split at h
    · rename_i c rest hletters
      obtain ⟨letters, rfl, hfold⟩ := Text.afterLetters?_eq_some_iff.mp hletters
      rw [Bool.and_eq_true] at h
      obtain ⟨hc, h⟩ := h
      split at h
      · rename_i d tail htrim
        have hrest : rest = rest.takeWhile Text.isBlank ++ d :: tail := by
          rw [← htrim, Text.trimStart, List.takeWhile_append_dropWhile]
        refine ⟨letters ++ (c :: rest.takeWhile Text.isBlank) ++ [d], tail, ?_,
          .mk (map_foldLetter_limit.mp hfold) (List.cons_ne_nil _ _) ?_ (List.cons_ne_nil _ _) ?_⟩
        · rw [List.append_assoc, List.append_assoc, List.cons_append, List.cons_append,
            List.nil_append, ← hrest]
        · exact List.forall_mem_cons.mpr ⟨hc, fun a ha => List.mem_takeWhile_imp ha⟩
        · simpa using h
      · cases h
    · cases h
  · rintro ⟨_, after, rfl, ⟨hletters, hblanks, hblank, hnumbers, hnumber⟩⟩
    rename_i letters blanks numbers
    obtain ⟨b, blanks, rfl⟩ := List.exists_cons_of_ne_nil hblanks
    obtain ⟨d, numbers, rfl⟩ := List.exists_cons_of_ne_nil hnumbers
    obtain ⟨hb, hblank⟩ := List.forall_mem_cons.mp hblank
    have hd := hnumber d List.mem_cons_self
    have hafter : Text.afterLetters? ['l', 'i', 'm', 'i', 't']
        (letters ++ (b :: blanks) ++ (d :: numbers) ++ after)
          = some (b :: (blanks ++ d :: (numbers ++ after))) :=
      Text.afterLetters?_eq_some_iff.mpr
        ⟨letters, by simp only [List.append_assoc, List.cons_append],
          map_foldLetter_limit.mpr hletters⟩
    have htrim : Text.trimStart (blanks ++ d :: (numbers ++ after)) = d :: (numbers ++ after) := by
      refine Text.dropWhile_run hblank fun c hc => ?_
      rw [← Option.some.inj hc]
      exact isBlank_of_number hd
    rw [limitHere, hafter]
    simp only [hb, htrim, Bool.true_and, Bool.or_eq_true, beq_iff_eq]
    exact hd

/-- A LIMIT starts with a word character. -/
theorem IsLimit.isWord_head? {limit : List Char} (h : IsLimit limit) (after : List Char) :
    (limit ++ after).head?.any Text.isWord = true := by
  obtain ⟨hletters, -, -, -, -⟩ := h
  obtain ⟨c, letters, rfl, hc, -⟩ := List.map_eq_cons_iff.mp hletters
  have halpha : c.isAlpha = true := by
    rw [← Char.isAlpha_toLower_eq_isAlpha, hc]
    rfl
  have hname : Text.isNameChar c = true := by simp [Text.isNameChar, Char.isAlphanum, halpha]
  simp [Text.isWord, Text.toNat_lt_of_isNameChar hname, hname]

/-- **The search**: a LIMIT starts somewhere, and no word character stands before it. -/
theorem limitFrom_iff {inWord : Bool} {s : List Char} :
    limitFrom inWord s = true ↔ ∃ before after, s = before ++ after ∧
      before.getLast?.elim inWord Text.isWord = false ∧ limitHere after = true := by
  induction s generalizing inWord with
  | nil =>
    simp only [limitFrom, Bool.false_eq_true, false_iff]
    rintro ⟨before, after, hs, -, hhere⟩
    rw [(List.append_eq_nil_iff.mp hs.symm).2] at hhere
    cases hhere
  | cons c s ih =>
    rw [limitFrom, Bool.or_eq_true, Bool.and_eq_true, Bool.not_eq_true', ih]
    constructor
    · rintro (⟨hword, hhere⟩ | ⟨before, after, rfl, hword, hhere⟩)
      · exact ⟨[], c :: s, rfl, hword, hhere⟩
      · refine ⟨c :: before, after, rfl, ?_, hhere⟩
        rw [← hword, List.getLast?_cons]
        cases before.getLast? <;> rfl
    · rintro ⟨before, after, hs, hword, hhere⟩
      cases before with
      | nil => exact .inl ⟨hword, hs ▸ hhere⟩
      | cons b before =>
        obtain ⟨rfl, rfl⟩ := List.cons.inj hs
        refine .inr ⟨before, after, rfl, ?_, hhere⟩
        rw [← hword, List.getLast?_cons]
        cases before.getLast? <;> rfl

/-- **A LIMIT is found exactly where one is written.** -/
theorem hasLimit_iff (sql : String) : hasLimit sql = true ↔ HasLimit sql.toList := by
  rw [hasLimit, limitFrom_iff]
  constructor
  · rintro ⟨before, s, hsql, hword, hhere⟩
    obtain ⟨limit, after, rfl, hlimit⟩ := limitHere_iff.mp hhere
    refine ⟨before, limit, after, hsql, ?_, hlimit⟩
    rw [Text.IsBoundary, hlimit.isWord_head? after]
    cases hlast : before.getLast? <;> simp_all
  · rintro ⟨before, limit, after, hsql, hboundary, hlimit⟩
    refine ⟨before, limit ++ after, hsql, ?_, limitHere_iff.mpr ⟨limit, after, rfl, hlimit⟩⟩
    rw [Text.IsBoundary, hlimit.isWord_head? after] at hboundary
    cases hlast : before.getLast? <;> simp_all

/-! ## A LIMIT that was added is found -/

/-- A number as it is written. -/
def IsDecimal (n : String) : Prop := n ≠ "" ∧ ∀ c ∈ n.toList, c.isDigit = true

/-- **What may stand after LIMIT**: a number of rows, or an offset and a number of rows. -/
inductive IsAmount : String → Prop where
  | rows {n : String} (hn : IsDecimal n) : IsAmount n
  | window {o n : String} (ho : IsDecimal o) (hn : IsDecimal n) : IsAmount (o ++ ", " ++ n)

theorem isDecimal_toString (n : Nat) : IsDecimal (toString n) := by
  have hdigits : (toString n).toList = Nat.toDigits 10 n := by simp
  refine ⟨fun h => ?_, fun c hc => ?_⟩
  · rw [h] at hdigits
    exact Nat.toDigits_ne_nil hdigits.symm
  · rw [hdigits] at hc
    exact Nat.isDigit_of_mem_toDigits (by decide) (by decide) hc

theorem IsDecimal.head? {n : String} (h : IsDecimal n) :
    ∃ d, n.toList.head? = some d ∧ d.isDigit = true := by
  obtain ⟨d, ds, hd⟩ := List.exists_cons_of_ne_nil (mt String.toList_eq_nil_iff.mp h.1)
  exact ⟨d, by rw [hd]; rfl, h.2 d (hd ▸ List.mem_cons_self)⟩

/-- An amount starts with a digit. -/
theorem IsAmount.head? {limit : String} (h : IsAmount limit) :
    ∃ d, limit.toList.head? = some d ∧ d.isDigit = true := by
  cases h with
  | rows hn => exact hn.head?
  | window ho hn =>
    obtain ⟨d, hhead, hdigit⟩ := ho.head?
    refine ⟨d, ?_, hdigit⟩
    rw [String.toList_append, String.toList_append, List.append_assoc, List.head?_append, hhead]
    rfl

/-- **A LIMIT that was added is found.** -/
theorem hasLimit_appendLimit (sql : String) {limit : String} (h : IsAmount limit) :
    hasLimit (appendLimit sql limit) = true := by
  obtain ⟨d, hhead, hdigit⟩ := h.head?
  obtain ⟨rest, hrest⟩ := List.head?_eq_some_iff.mp hhead
  rw [hasLimit_iff, toList_appendLimit, hrest]
  refine ⟨withoutEnd sql.toList ++ [' '], ['L', 'I', 'M', 'I', 'T'] ++ [' '] ++ [d], rest, ?_, ?_,
    .mk (by decide) (List.cons_ne_nil _ _) ?_ (List.cons_ne_nil _ _) ?_⟩
  · simp
  · have hspace : Text.isWord ' ' = false := by decide +kernel
    have hletter : Text.isWord 'L' = true := by decide +kernel
    simp [Text.IsBoundary, hspace, hletter]
  · simp [Text.isBlank]
  · simp [Text.isDigit, Text.toNat_lt_of_isNameChar (Text.isNameChar_of_isDigit hdigit), hdigit]

end Statement

/-- What stands after the LIMIT of a page is an amount. -/
theorem Paging.Window.isAmount_limit (w : Paging.Window) : Statement.IsAmount w.limit :=
  .window (Statement.isDecimal_toString _) (Statement.isDecimal_toString _)

namespace Statement

/-! ## A LIMIT is added once -/

open Session (firstRowSql)

theorem hasLimit_firstRowSql (sql : String) : hasLimit (firstRowSql sql) = true := by
  rw [firstRowSql]
  split
  · assumption
  · exact hasLimit_appendLimit sql (.rows (isDecimal_toString 1))

theorem prepare_of_hasLimit (p : Paging) {sql : String} (h : hasLimit sql = true) :
    p.prepare sql = .error .pagingConflict := by
  rw [Paging.prepare, if_pos h]

/-- **Finding a LIMIT and adding one fit together.** -/
structure LimitsFit (sql : String) : Prop where
  /-- A LIMIT is found exactly where one is written at a word boundary… -/
  found_iff : hasLimit sql = true ↔ HasLimit sql.toList
  /-- …and so is one that was added. -/
  added : ∀ limit, IsAmount limit → hasLimit (appendLimit sql limit) = true
  /-- SQL without a LIMIT has a page, and the page has none. -/
  paged_once : ∀ p q : Paging, hasLimit sql = false →
    ∃ page, p.prepare sql = .ok (page, p.window) ∧ q.prepare page = .error .pagingConflict
  /-- The first row has no page… -/
  first_row_unpaged : ∀ p : Paging, p.prepare (firstRowSql sql) = .error .pagingConflict
  /-- …and is its own first row. -/
  first_row_once : firstRowSql (firstRowSql sql) = firstRowSql sql
  /-- What the first word tells of the result, it tells with a LIMIT at the end. -/
  same_shape : ∀ limit, IsAmount limit →
    Reading.byKeyword.shape (appendLimit sql limit) = Reading.byKeyword.shape sql

/-- **Finding a LIMIT and adding one fit together**, for every SQL text: a LIMIT is found exactly if
its letters stand at a word boundary with a blank and a digit or a comma behind them; one that was
added is found, so it is added once; and it leaves the shape of the result alone. -/
theorem limits_found_as_added (sql : String) : LimitsFit sql where
  found_iff := hasLimit_iff sql
  added := fun _ hlimit => hasLimit_appendLimit sql hlimit
  paged_once := by
    intro p q hnone
    refine ⟨appendLimit sql p.window.limit, ?_,
      prepare_of_hasLimit q (hasLimit_appendLimit sql p.window.isAmount_limit)⟩
    rw [Paging.prepare, hnone]
    rfl
  first_row_unpaged := fun p => prepare_of_hasLimit p (hasLimit_firstRowSql sql)
  first_row_once := by
    conv_lhs => rw [firstRowSql]
    exact if_pos (hasLimit_firstRowSql sql)
  same_shape := fun limit _ => shape_appendLimit .byKeyword sql limit

end Statement

end SqlShorthand
