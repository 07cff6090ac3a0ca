import SqlShorthand.Proofs.Text
import SqlShorthand.Statement.Basic
import SqlShorthand.Statement.Limit

/-!
# Proofs/Statement/Keyword — the word that opens a statement

How a statement's result is read, and whether it is a SELECT, hangs on its first word alone.  Two
facts about that word:

* `isSelectSql_select` — SQL that was compiled as a selection is a SELECT;
* `shape_appendLimit` — a LIMIT at the end leaves the shape of the result alone.

The engine of the second is that a text goes on after `appendLimit`'s cut, in the SQL as in what
becomes of it, with a character that belongs to no word (`isStop`): so no word reaches across the
cut (`afterLetters?_append`), and none ends before it that did not end there already.
-/

namespace SqlShorthand

namespace Text

/-! ## Letters before a stop -/

/-- A character that is no letter of a keyword, and goes on no word. -/
def isStop (c : Char) : Bool := !(foldLetter c).isLower && !isWord c

/-- The code points of the blank characters. -/
def blankCodes : List Nat :=
  [9, 10, 11, 12, 13, 32, 0x85, 0xA0, 0x1680, 0x2000, 0x2001, 0x2002, 0x2003, 0x2004, 0x2005,
   0x2006, 0x2007, 0x2008, 0x2009, 0x200A, 0x2028, 0x2029, 0x202F, 0x205F, 0x3000]

theorem mem_blankCodes {c : Char} (h : isBlank c = true) : c.toNat ∈ blankCodes := by
  simp only [isBlank, Bool.or_eq_true, Bool.and_eq_true, decide_eq_true_eq, beq_iff_eq] at h
  simp only [blankCodes, List.mem_cons, List.not_mem_nil, or_false]
  omega

theorem isStop_of_isBlank {c : Char} (h : isBlank c = true) : isStop c = true := by
  have hcodes : ∀ n ∈ blankCodes, isStop (Char.ofNat n) = true := by decide +kernel
  have hc := hcodes c.toNat (mem_blankCodes h)
  rwa [Char.ofNat_toNat] at hc

variable {word s rest : List Char}

/-- **No keyword reaches across a stop**: it is found in what stands before, or not at all. -/
theorem afterLetters?_append (hword : ∀ c ∈ word, c.isLower = true) (s : List Char)
    (hrest : ∀ c ∈ rest.head?, isStop c = true) :
    afterLetters? word (s ++ rest) = (afterLetters? word s).map (· ++ rest) := by
  induction word generalizing s with
  | nil => rfl
  | cons w word ih =>
    obtain ⟨hw, hword⟩ := List.forall_mem_cons.mp hword
    cases s with
    | cons c s =>
      rw [List.cons_append, afterLetters?, afterLetters?]
      split
      · exact ih hword s
      · rfl
    | nil =>
      rw [List.nil_append, afterLetters?]
      cases rest with
      | nil => rfl
      | cons c rest =>
        have hne : foldLetter c ≠ w := by
          intro hfold
          have hstop := hrest c rfl
          rw [isStop, hfold, hw] at hstop
          exact Bool.noConfusion hstop
        rw [afterLetters?, if_neg (by simp [hne])]
        rfl

theorem startsInWord_append (s : List Char) (hrest : ∀ c ∈ rest.head?, isStop c = true) :
    startsInWord (s ++ rest) = startsInWord s := by
  cases s with
  | cons c s => rfl
  | nil =>
    cases rest with
    | nil => rfl
    | cons c rest =>
      have hstop := hrest c rfl
      rw [isStop, Bool.and_eq_true, Bool.not_eq_true'] at hstop
      exact Bool.not_eq_true' .. |>.mp hstop.2

end Text

namespace Statement

/-! ## The cut before a LIMIT -/

/-- Whether the text, whose start is visible, starts with the word and the word ends there. -/
def opensHere (word : String) (s : List Char) : Bool :=
  match Text.afterLetters? word.toList s with
  | some rest => !Text.startsInWord rest
  | none => false

theorem opensWithWord_eq (s : List Char) (word : String) :
    opensWithWord s word = opensHere word (Text.trimStart s) := rfl

/-- **What follows a stop does not change the word before it.** -/
theorem opensHere_append {word : String} (hword : ∀ c ∈ word.toList, c.isLower = true)
    (s : List Char) {rest : List Char} (hrest : ∀ c ∈ rest.head?, Text.isStop c = true) :
    opensHere word (s ++ rest) = opensHere word s := by
  rw [opensHere, opensHere, Text.afterLetters?_append hword s hrest]
  cases Text.afterLetters? word.toList s with
  | none => rfl
  | some after =>
    rw [Option.map_some]
    dsimp only
    rw [Text.startsInWord_append after hrest]

/-- What is dropped at the end of a list is of the class that is dropped. -/
theorem exists_append_of_dropWhile {α : Type} (p : α → Bool) (s : List α) :
    ∃ tail, s = (s.reverse.dropWhile p).reverse ++ tail ∧ ∀ a ∈ tail, p a = true := by
  refine ⟨(s.reverse.takeWhile p).reverse, ?_, fun a ha => ?_⟩
  · rw [← List.reverse_append, List.takeWhile_append_dropWhile, List.reverse_reverse]
  · exact List.mem_takeWhile_imp (List.mem_reverse.mp ha)

/-- **What is cut off before a LIMIT** is blank or a semicolon. -/
theorem exists_withoutEnd_append (s : List Char) :
    ∃ tail, Text.trimStart s = withoutEnd s ++ tail ∧ ∀ c ∈ tail, Text.isStop c = true := by
  obtain ⟨blanks, hblanks, hblank⟩ := exists_append_of_dropWhile Text.isBlank (Text.trimStart s)
  obtain ⟨ends, hends, hend⟩ := exists_append_of_dropWhile (· == ';') (Text.trim s)
  obtain ⟨inner, hinner, hinnerBlank⟩ := exists_append_of_dropWhile Text.isBlank
    ((Text.trim s).reverse.dropWhile (· == ';')).reverse
  refine ⟨inner ++ (ends ++ blanks), ?_, fun c hc => ?_⟩
  · calc Text.trimStart s = Text.trim s ++ blanks := hblanks
      _ = (withoutEnd s ++ inner) ++ ends ++ blanks := by
        rw [withoutEnd, Text.trimEnd, ← hinner, ← hends]
      _ = withoutEnd s ++ (inner ++ (ends ++ blanks)) := by simp only [List.append_assoc]
  · simp only [List.mem_append] at hc
    rcases hc with hc | hc | hc
    · exact Text.isStop_of_isBlank (hinnerBlank c hc)
    · rw [eq_of_beq (hend c hc)]
      decide +kernel
    · exact Text.isStop_of_isBlank (hblank c hc)

/-- A word of small letters that does not start like LIMIT. -/
def isKeyword (word : String) : Bool :=
  word.toList.all Char.isLower && word.toList.head?.any (· != 'l')

theorem toList_appendLimit (sql limit : String) :
    (appendLimit sql limit).toList
      = withoutEnd sql.toList ++ ' ' :: ('L' :: ("IMIT ".toList ++ limit.toList)) := by
  rw [appendLimit, String.toList_append, String.toList_append, String.toList_ofList,
    List.append_assoc]
  rfl

/-- **A LIMIT at the end leaves the opening word alone.** -/
theorem opensWithWord_appendLimit {word : String} (hword : isKeyword word = true)
    (sql limit : String) :
    opensWithWord (appendLimit sql limit).toList word = opensWithWord sql.toList word := by
  rw [isKeyword, Bool.and_eq_true, List.all_eq_true] at hword
  obtain ⟨hletters, hstarts⟩ := hword
  obtain ⟨tail, htail, hstop⟩ := exists_withoutEnd_append sql.toList
  have hspace : ∀ c ∈ (' ' :: ('L' :: ("IMIT ".toList ++ limit.toList))).head?,
      Text.isStop c = true := by
    intro c hc
    obtain rfl : ' ' = c := Option.some.inj hc
    decide +kernel
  have hcut : opensWithWord sql.toList word = opensHere word (withoutEnd sql.toList) := by
    rw [opensWithWord_eq, htail]
    exact opensHere_append hletters _ fun c hc => hstop c (List.mem_of_mem_head? hc)
  rw [hcut, opensWithWord_eq, toList_appendLimit]
  cases hstart : withoutEnd sql.toList with
  | nil =>
    -- Nothing is left before the LIMIT, so the SQL opens with that word.
    obtain ⟨w, ws, hws⟩ : ∃ w ws, word.toList = w :: ws := by
      cases hword : word.toList with
      | nil => simp [hword] at hstarts
      | cons w ws => exact ⟨w, ws, rfl⟩
    have hlimit : Text.trimStart ([] ++ ' ' :: ('L' :: ("IMIT ".toList ++ limit.toList)))
        = 'L' :: ("IMIT ".toList ++ limit.toList) := rfl
    have hfold : (Text.foldLetter 'L' == w) = false := by
      have hl : Text.foldLetter 'L' = 'l' := by decide
      rw [hws] at hstarts
      rw [hl]
      exact beq_eq_false_iff_ne.mpr (Ne.symm (bne_iff_ne.mp hstarts))
    rw [hlimit, opensHere, opensHere, hws]
    simp only [Text.afterLetters?, hfold, Bool.false_eq_true, if_false]
  | cons c rest =>
    have hvisible : Text.isBlank c = false := by
      refine Text.head?_trimStart sql.toList c ?_
      rw [htail, hstart]
      rfl
    rw [List.cons_append, Text.trimStart_cons _ hvisible, ← List.cons_append]
    exact opensHere_append hletters _ hspace

theorem opensWith_appendLimit {words : List String} (hwords : words.all isKeyword = true)
    (sql limit : String) : opensWith words (appendLimit sql limit) = opensWith words sql := by
  rw [List.all_eq_true] at hwords
  rw [opensWith, opensWith, Bool.eq_iff_iff, List.any_eq_true, List.any_eq_true]
  refine exists_congr fun word => and_congr_right fun hword => ?_
  rw [opensWithWord_appendLimit (hwords word hword) sql limit]

/-- **A LIMIT at the end leaves the shape of the result alone.** -/
theorem shape_appendLimit (reading : Reading) (sql limit : String) :
    reading.shape (appendLimit sql limit) = reading.shape sql := by
  have hrows : rowWords.all isKeyword = true := by decide +kernel
  have haffected : affectedWords.all isKeyword = true := by decide +kernel
  cases reading with
  | rows | affected => rw [Reading.shape, Reading.shape]
  | byKeyword =>
    rw [Reading.shape, Reading.shape, opensWith_appendLimit hrows, opensWith_appendLimit haffected]

/-! ## A selection is a SELECT -/

/-- SELECT and a space open a SELECT. -/
theorem isSelectSql_append {rest : String} (h : rest.toList.head? = some ' ') :
    isSelectSql ("SELECT" ++ rest) = true := by
  obtain ⟨tail, htail⟩ := List.head?_eq_some_iff.mp h
  rw [isSelectSql, opensWith, String.toList_append, htail]
  rfl

/-- The keywords of a command start with a space, if there are any. -/
theorem head?_modifierSql_append (options : Options) (rest : String) :
    (options.modifierSql ++ (" " ++ rest)).toList.head? = some ' ' := by
  rw [Options.modifierSql]
  cases options.modifiers with
  | nil => simp
  | cons word words => simp [String.toList_join]

/-- **SQL that was compiled as a selection is a SELECT.** -/
theorem isSelectSql_select {c : Command} (hverb : c.verb = none) {options : Options}
    {args : List Params} {stmt : Statement} (h : c.compile options args = .ok stmt) :
    isSelectSql stmt.sql = true := by
  rw [Command.compile] at h
  split at h
  · cases h
  · rw [Command.compileBody, hverb] at h
    cases h
    simp only [String.append_assoc]
    exact isSelectSql_append (head?_modifierSql_append options _)

end Statement

end SqlShorthand
