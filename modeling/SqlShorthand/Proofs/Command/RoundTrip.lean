import SqlShorthand.Proofs.Text
import SqlShorthand.Command.Reader
import SqlShorthand.Command.Printer

/-!
# Proofs/Command/RoundTrip — a command and its text denote each other

`WellFormed` says which commands have a text.  Two theorems tie it to the reader:

* `parse_render` — the text of a well-formed command is read as that command;
* `wellFormed_of_parse` — the reader gives well-formed commands only.

The engine of the first is that every part of a rendered command is followed by a delimiter that
cannot prolong it (`StartsIn`): the parts after the table open with one of `( : . /`, and the clause
is kept apart by a space — so it may itself begin with any of these.
-/

namespace SqlShorthand.Command

/-! ## Well-formed commands -/

/-- A name that a column list can hold: trimmed, and free of commas and parentheses. -/
structure IsColumnName (name : String) : Prop where
  ne_empty : name ≠ ""
  trimmed : Text.trimmed name = name
  chars : ∀ ch ∈ name.toList, Text.isNameChar ch = true ∨ Text.isBlank ch = true

/-- A word of name characters, as options are. -/
structure IsWord (word : String) : Prop where
  ne_empty : word ≠ ""
  chars : ∀ ch ∈ word.toList, Text.isNameChar ch = true

/-- A run of ASCII digits, as row ids are. -/
structure IsDigits (digits : String) : Prop where
  ne_empty : digits ≠ ""
  chars : ∀ ch ∈ digits.toList, ch.isDigit = true

/-- **A command that has a text.**  The connection is any number of its type. -/
structure WellFormed (c : Command) : Prop where
  table : ∀ ch ∈ c.table.toList, Text.isNameChar ch = true
  columns_ne_nil : c.columns ≠ .named []
  columns : ∀ name ∈ c.columns.names, IsColumnName name
  selector : c.verb = none ∨ c.rowId = none
  row : ∀ row ∈ c.rowId, IsDigits row
  options : ∀ option ∈ c.options, IsWord option
  clause : Text.trimmed c.clause = c.clause

/-! ## Delimiters -/

/-- The text is empty or starts with one of the characters. -/
def StartsIn (delimiters s : List Char) : Prop := ∀ ch ∈ s.head?, ch ∈ delimiters

theorem startsIn_nil (delimiters : List Char) : StartsIn delimiters [] := by
  intro ch hch
  exact absurd hch (by simp)

theorem startsIn_cons {delimiters : List Char} {ch : Char} (h : ch ∈ delimiters) (s : List Char) :
    StartsIn delimiters (ch :: s) := by
  intro d hd
  obtain rfl : ch = d := by simpa using hd
  exact h

theorem StartsIn.mono {ds es s : List Char} (h : StartsIn ds s)
    (hsub : ds.all (fun d => es.contains d) = true) : StartsIn es s := by
  intro ch hch
  exact List.contains_iff_mem.mp (List.all_eq_true.mp hsub ch (h ch hch))

/-- A class that holds no delimiter cannot run on into the text. -/
theorem StartsIn.stops {ds s : List Char} (h : StartsIn ds s) {p : Char → Bool}
    (hp : ds.any p = false) : ∀ ch ∈ s.head?, p ch = false := by
  intro ch hch
  exact Bool.eq_false_iff.mpr (List.any_eq_false.mp hp ch (h ch hch))

/-- What a clause opens with. -/
def clauseDelimiters : List Char := [' ']

/-- What the options and all after them open with. -/
def optionDelimiters : List Char := ['/', ' ']

/-- What the selector and all after it open with. -/
def selectorDelimiters : List Char := [':', '.', '/', ' ']

/-- What the columns and all after them open with. -/
def columnDelimiters : List Char := ['(', ':', '.', '/', ' ']

/-! ## The text in its parts -/

/-- The options as characters. -/
def optionChars (options : List String) : List Char := options.flatMap fun o => '/' :: o.toList

theorem toList_clauseSql (c : Command) :
    c.clauseSql.toList = if c.clause = "" then [] else ' ' :: c.clause.toList := by
  by_cases h : c.clause = ""
  · simp [clauseSql, h]
  · simp [clauseSql, h]

theorem toList_join_options (options : List String) :
    (String.join (options.map ("/" ++ ·))).toList = optionChars options := by
  rw [String.toList_join, optionChars, List.flatMap_map]
  refine congrArg (fun f => List.flatMap f options) (funext fun o => ?_)
  rw [String.toList_append]
  rfl

/-- **The text of a command, part by part** — nested to the right, as the reader takes it. -/
theorem toList_render (c : Command) :
    c.render.toList = '[' :: (Nat.toDigits 10 c.connection.toNat ++ ']' :: (c.table.toList ++
      ((renderColumns c.columns).toList ++ (c.renderSelector.toList ++
        (optionChars c.options ++ c.clauseSql.toList))))) := by
  simp only [render, String.toList_append, toList_join_options, Nat.toString_eq_repr,
    Nat.toList_repr, List.append_assoc]
  rfl

theorem startsIn_clauseSql (c : Command) : StartsIn clauseDelimiters c.clauseSql.toList := by
  rw [toList_clauseSql]
  split
  · exact startsIn_nil _
  · exact startsIn_cons (by decide) _

theorem startsIn_optionChars (options : List String) {rest : List Char}
    (hrest : StartsIn clauseDelimiters rest) :
    StartsIn optionDelimiters (optionChars options ++ rest) := by
  cases options with
  | nil => exact hrest.mono (by decide)
  | cons o os => exact startsIn_cons (by decide) _

theorem startsIn_renderSelector (c : Command) {rest : List Char}
    (hrest : StartsIn optionDelimiters rest) :
    StartsIn selectorDelimiters (c.renderSelector.toList ++ rest) := by
  unfold renderSelector
  split
  · rw [String.toList_append]
    exact startsIn_cons (by decide) _
  · rw [String.toList_append]
    exact startsIn_cons (by decide) _
  · exact hrest.mono (by decide)

theorem startsIn_renderColumns (columns : Columns) {rest : List Char}
    (hrest : StartsIn selectorDelimiters rest) :
    StartsIn columnDelimiters ((renderColumns columns).toList ++ rest) := by
  cases columns with
  | all => exact hrest.mono (by decide)
  | named names =>
    simp only [renderColumns, String.toList_append]
    exact startsIn_cons (by decide) _

/-! ## Reading a rendered part

Each lemma reads one part in front of a rest that starts with a later part's delimiter. -/

theorem readConnection_digits (id : ConnectionId) (rest : List Char) :
    readConnection ('[' :: (Nat.toDigits 10 id.toNat ++ ']' :: rest)) = .ok (id, rest) := by
  have hdigits : ∀ ch ∈ Nat.toDigits 10 id.toNat, ch.isDigit = true := fun ch hch =>
    Nat.isDigit_of_mem_toDigits (by decide) (by decide) hch
  have hstop : ∀ ch ∈ (']' :: rest).head?, ch.isDigit = false := by
    intro ch hch
    obtain rfl : ']' = ch := by simpa using hch
    decide
  have hpart : connectionPart? ('[' :: (Nat.toDigits 10 id.toNat ++ ']' :: rest))
      = some (Nat.toDigits 10 id.toNat, rest) := by
    simp only [connectionPart?, Text.takeWhile_run hdigits hstop, Text.dropWhile_run hdigits hstop]
    cases h : Nat.toDigits 10 id.toNat with
    | nil => exact absurd h Nat.toDigits_ne_nil
    | cons d ds => rfl
  have hlt : id.toNat < UInt32.size := id.toNat_lt
  simp only [readConnection, hpart, Decimal.valueFrom_toDigits, if_pos hlt, UInt32.ofNat_toNat]

theorem endsTable_of_startsIn {s : List Char} (h : StartsIn columnDelimiters s) :
    endsTable s = true := by
  cases s with
  | nil => rfl
  | cons ch s =>
    have hall : ∀ d ∈ columnDelimiters, endsTable (d :: s) = true := by
      intro d hd
      simp only [columnDelimiters, List.mem_cons, List.not_mem_nil, or_false] at hd
      rcases hd with rfl | rfl | rfl | rfl | rfl <;> rfl
    exact hall ch (h ch rfl)

theorem tablePart_append {name rest : List Char} (hname : ∀ ch ∈ name, Text.isNameChar ch = true)
    (hrest : StartsIn columnDelimiters rest) : tablePart (name ++ rest) = (name, rest) := by
  have hstop := hrest.stops (p := Text.isNameChar) (by decide)
  simp only [tablePart, Text.takeWhile_run hname hstop, Text.dropWhile_run hname hstop,
    endsTable_of_startsIn hrest, Bool.and_true]
  cases name with
  | nil => rfl
  | cons ch name => rfl

/-! ### Columns -/

/-- The names of a list after the first, each with the blank that stands before it. -/
theorem intercalate_names (name : List Char) (names : List (List Char)) :
    [',', ' '].intercalate (name :: names)
      = [','].intercalate (name :: names.map (' ' :: ·)) := by
  induction names generalizing name with
  | nil => rfl
  | cons n names ih =>
    rw [List.intercalate_cons_cons, List.map_cons, List.intercalate_cons_cons, ih]
    cases names with
    | nil => simp
    | cons m names => simp [List.intercalate_cons_cons]

theorem IsColumnName.trim_toList {name : String} (h : IsColumnName name) :
    Text.trim name.toList = name.toList := by
  have := congrArg String.toList h.trimmed
  rwa [Text.trimmed, String.toList_ofList] at this

theorem IsColumnName.comma_notMem {name : String} (h : IsColumnName name) : ',' ∉ name.toList := by
  intro hmem
  rcases h.chars ',' hmem with hch | hch
  · exact absurd hch (by decide)
  · exact absurd hch (by decide)

/-- **A list of names is split into these names** — the blank after a comma goes with the trim. -/
theorem columnNames_intercalate {names : List String} (hne : names ≠ [])
    (hnames : ∀ name ∈ names, IsColumnName name) :
    columnNames ([',', ' '].intercalate (names.map String.toList)) = names.map String.toList := by
  obtain ⟨first, others, rfl⟩ := List.exists_cons_of_ne_nil hne
  have hfirst := hnames first List.mem_cons_self
  have hothers : ∀ name ∈ others, IsColumnName name := fun name h =>
    hnames name (List.mem_cons_of_mem first h)
  have hcomma : ∀ l ∈ first.toList :: (others.map String.toList).map (' ' :: ·), ',' ∉ l := by
    intro l hl
    rw [List.map_map, List.mem_cons, List.mem_map] at hl
    rcases hl with rfl | ⟨name, hname, rfl⟩
    · exact hfirst.comma_notMem
    · simpa using (hothers name hname).comma_notMem
  have htrim : (others.map String.toList).map (Text.trim ∘ (' ' :: ·))
      = others.map String.toList := by
    rw [List.map_map]
    refine List.map_congr_left fun name hname => ?_
    exact (Text.trim_cons_of_isBlank _ (by decide)).trans (hothers name hname).trim_toList
  have hkept : ∀ l ∈ (first :: others).map String.toList, (!l.isEmpty) = true := by
    intro l hl
    obtain ⟨name, hname, rfl⟩ := List.mem_map.mp hl
    simpa using (hnames name hname).ne_empty
  rw [List.map_cons, intercalate_names, columnNames,
    List.splitOn_intercalate ',' hcomma (List.cons_ne_nil _ _), List.map_cons, List.map_map, htrim,
    hfirst.trim_toList]
  exact List.filter_eq_self.mpr hkept

theorem isColumnChar_of_mem_intercalate {names : List String}
    (hnames : ∀ name ∈ names, IsColumnName name) {ch : Char}
    (hch : ch ∈ [',', ' '].intercalate (names.map String.toList)) : isColumnChar ch = true := by
  induction names with
  | nil => exact absurd hch (by simp)
  | cons name names ih =>
    have hname : ch ∈ name.toList → isColumnChar ch = true := by
      intro h
      rcases (hnames name List.mem_cons_self).chars ch h with h | h
      · simp [isColumnChar, h]
      · simp [isColumnChar, h]
    cases names with
    | nil => exact hname (by simpa using hch)
    | cons n names =>
      rw [List.map_cons, List.map_cons, List.intercalate_cons_cons, List.mem_append,
        List.mem_append] at hch
      rcases hch with (hch | hch) | hch
      · exact hname hch
      · simp only [List.mem_cons, List.not_mem_nil, or_false] at hch
        rcases hch with rfl | rfl <;> decide
      · exact ih (fun m hm => hnames m (List.mem_cons_of_mem name hm)) (by simpa using hch)

theorem columnsOf_intercalate {names : List String} (hne : names ≠ [])
    (hnames : ∀ name ∈ names, IsColumnName name) :
    columnsOf ([',', ' '].intercalate (names.map String.toList)) = .named names := by
  have hback : (names.map String.toList).map String.ofList = names := by simp
  rw [columnsOf, columnNames_intercalate hne hnames]
  split
  · exact absurd (List.map_eq_nil_iff.mp ‹_›) hne
  · rw [hback]

theorem columnsPart?_named {names : List String} (hne : names ≠ [])
    (hnames : ∀ name ∈ names, IsColumnName name) (rest : List Char) :
    columnsPart? ((renderColumns (.named names)).toList ++ rest)
      = some ([',', ' '].intercalate (names.map String.toList), rest) := by
  have hbody : ∀ ch ∈ [',', ' '].intercalate (names.map String.toList), isColumnChar ch = true :=
    fun ch hch => isColumnChar_of_mem_intercalate hnames hch
  have hstop : ∀ ch ∈ (')' :: rest).head?, isColumnChar ch = false := by
    intro ch hch
    obtain rfl : ')' = ch := by simpa using hch
    decide
  have htext : (renderColumns (.named names)).toList ++ rest
      = '(' :: ([',', ' '].intercalate (names.map String.toList) ++ ')' :: rest) := by
    simp [renderColumns, String.toList_append, String.toList_intercalate]
  have hne' : [',', ' '].intercalate (names.map String.toList) ≠ [] := by
    intro h
    have hempty := columnsOf_intercalate hne hnames
    rw [h] at hempty
    exact Columns.noConfusion hempty
  rw [htext]
  simp only [columnsPart?, Text.takeWhile_run hbody hstop, Text.dropWhile_run hbody hstop]

/-- **Columns are read back.** -/
theorem read_columns {columns : Columns} (hne : columns ≠ .named [])
    (hnames : ∀ name ∈ columns.names, IsColumnName name) {rest : List Char}
    (hrest : StartsIn selectorDelimiters rest) :
    ∃ body, optionalPart (columnsPart? ((renderColumns columns).toList ++ rest))
        ((renderColumns columns).toList ++ rest) = (body, rest) ∧
      (body.map columnsOf).getD .all = columns := by
  cases columns with
  | all =>
    refine ⟨none, ?_, rfl⟩
    have hnone : columnsPart? rest = none := by
      cases rest with
      | nil => rfl
      | cons ch rest =>
        have hch := hrest ch rfl
        simp only [selectorDelimiters, List.mem_cons, List.not_mem_nil, or_false] at hch
        rcases hch with rfl | rfl | rfl | rfl <;> rfl
    simp [renderColumns, optionalPart, hnone]
  | named names =>
    have hne' : names ≠ [] := fun h => hne (congrArg Columns.named h)
    refine ⟨some ([',', ' '].intercalate (names.map String.toList)), ?_, ?_⟩
    · rw [columnsPart?_named hne' hnames]
      rfl
    · exact columnsOf_intercalate hne' hnames

/-! ### Selector, options and clause -/

/-- Every spelling that is shown is a word. -/
theorem isWord_name (verb : Verb) : IsWord verb.name := by
  have h : verb.name ≠ "" ∧ verb.name.toList.all Text.isNameChar = true := by
    cases verb <;> decide +kernel
  exact ⟨h.1, List.all_eq_true.mp h.2⟩

theorem ofName_name (verb : Verb) : Verb.ofName verb.name = .ok verb := by
  rw [Verb.ofName, Verb.ofName?_name]

theorem selectorPart?_verb (verb : Verb) {rest : List Char}
    (hrest : StartsIn optionDelimiters rest) :
    selectorPart? (':' :: (verb.name.toList ++ rest)) = some (.verb verb.name.toList, rest) := by
  have hname := (isWord_name verb).chars
  have hstop := hrest.stops (p := Text.isNameChar) (by decide)
  have hne : verb.name.toList ≠ [] := by simpa using (isWord_name verb).ne_empty
  simp only [selectorPart?, Text.takeWhile_run hname hstop, Text.dropWhile_run hname hstop]

theorem selectorPart?_row {row : String} (hrow : IsDigits row) {rest : List Char}
    (hrest : StartsIn optionDelimiters rest) :
    selectorPart? ('.' :: (row.toList ++ rest)) = some (.row row.toList, rest) := by
  have hstop := hrest.stops (p := Char.isDigit) (by decide)
  have hne : row.toList ≠ [] := by simpa using hrow.ne_empty
  simp only [selectorPart?, Text.takeWhile_run hrow.chars hstop,
    Text.dropWhile_run hrow.chars hstop]

theorem selectorPart?_eq_none {rest : List Char} (hrest : StartsIn optionDelimiters rest) :
    selectorPart? rest = none := by
  cases rest with
  | nil => rfl
  | cons ch rest =>
    have hch := hrest ch rfl
    simp only [optionDelimiters, List.mem_cons, List.not_mem_nil, or_false] at hch
    rcases hch with rfl | rfl <;> rfl

/-- The selector that a command shows. -/
def shownSelector (c : Command) : Option Selector :=
  match c.verb, c.rowId with
  | some verb, _ => some (.verb verb.name.toList)
  | none, some row => some (.row row.toList)
  | none, none => none

/-- **The selector is read back.** -/
theorem read_selector {c : Command} (hrow : ∀ row ∈ c.rowId, IsDigits row) {rest : List Char}
    (hrest : StartsIn optionDelimiters rest) :
    optionalPart (selectorPart? (c.renderSelector.toList ++ rest)) (c.renderSelector.toList ++ rest)
      = (c.shownSelector, rest) := by
  obtain ⟨_, _, _, rowId, verb, _, _⟩ := c
  cases verb with
  | some verb =>
    simp only [renderSelector, shownSelector, String.toList_append, List.append_assoc]
    rw [show ":".toList = [':'] from rfl, List.singleton_append, selectorPart?_verb verb hrest]
    rfl
  | none =>
    cases rowId with
    | some row =>
      simp only [renderSelector, shownSelector, String.toList_append, List.append_assoc]
      rw [show ".".toList = ['.'] from rfl, List.singleton_append,
        selectorPart?_row (hrow row rfl) hrest]
      rfl
    | none =>
      simp only [renderSelector, shownSelector, String.toList_empty, List.nil_append,
        selectorPart?_eq_none hrest]
      rfl

theorem optionChars_cons (option : String) (options : List String) :
    optionChars (option :: options)
      = '/' :: ['/'].intercalate ((option :: options).map String.toList) := by
  induction options generalizing option with
  | nil => simp [optionChars]
  | cons o options ih =>
    have hcons : optionChars (option :: o :: options)
        = '/' :: (option.toList ++ optionChars (o :: options)) := by simp [optionChars]
    rw [hcons, ih o]
    simp only [List.map_cons, List.intercalate_cons_cons, List.append_assoc, List.singleton_append]

theorem optionTokens_intercalate {options : List String} (hne : options ≠ [])
    (hoptions : ∀ option ∈ options, IsWord option) :
    optionTokens (['/'].intercalate (options.map String.toList)) = options := by
  have hslash : ∀ l ∈ options.map String.toList, '/' ∉ l := by
    intro l hl hmem
    obtain ⟨option, hoption, rfl⟩ := List.mem_map.mp hl
    exact absurd ((hoptions option hoption).chars '/' hmem) (by decide)
  have hkept : ∀ l ∈ options.map String.toList, (!l.isEmpty) = true := by
    intro l hl
    obtain ⟨option, hoption, rfl⟩ := List.mem_map.mp hl
    simpa using (hoptions option hoption).ne_empty
  rw [optionTokens, List.splitOn_intercalate '/' hslash (by simpa using hne),
    List.filter_eq_self.mpr hkept]
  simp

theorem isOptionChar_of_mem_optionChars {options : List String}
    (hoptions : ∀ option ∈ options, IsWord option) :
    ∀ ch ∈ optionChars options, isOptionChar ch = true := by
  intro ch hch
  obtain ⟨option, hoption, hch⟩ := List.mem_flatMap.mp hch
  rcases List.mem_cons.mp hch with rfl | hch
  · decide
  · simp [isOptionChar, (hoptions option hoption).chars ch hch]

/-- **Options are read back.** -/
theorem read_options {options : List String} (hoptions : ∀ option ∈ options, IsWord option)
    {rest : List Char} (hrest : StartsIn clauseDelimiters rest) :
    ∃ body, optionalPart (optionsPart? (optionChars options ++ rest)) (optionChars options ++ rest)
        = (body, rest) ∧
      (body.map optionTokens).getD [] = options := by
  cases options with
  | nil =>
    refine ⟨none, ?_, rfl⟩
    cases rest with
    | nil => rfl
    | cons ch rest =>
      obtain rfl : ch = ' ' := by simpa [clauseDelimiters] using hrest ch rfl
      rfl
  | cons option options =>
    have hstop := hrest.stops (p := isOptionChar) (by decide)
    have hbody : ∀ ch ∈ ['/'].intercalate ((option :: options).map String.toList),
        isOptionChar ch = true := by
      intro ch hch
      refine isOptionChar_of_mem_optionChars hoptions ch ?_
      rw [optionChars_cons]
      exact List.mem_cons_of_mem '/' hch
    have hne : ['/'].intercalate ((option :: options).map String.toList) ≠ [] := by
      intro h
      have hempty := optionTokens_intercalate (List.cons_ne_nil option options) hoptions
      rw [h] at hempty
      exact absurd hempty (List.cons_ne_nil option options).symm
    refine ⟨some (['/'].intercalate ((option :: options).map String.toList)), ?_, ?_⟩
    · rw [optionChars_cons, List.cons_append]
      simp only [optionsPart?, Text.takeWhile_run hbody hstop, Text.dropWhile_run hbody hstop]
      rfl
    · exact optionTokens_intercalate (List.cons_ne_nil option options) hoptions

/-- **The clause is read back** — the space before it is trimmed, and nothing else is. -/
theorem trim_clauseSql {c : Command} (hclause : Text.trimmed c.clause = c.clause) :
    String.ofList (Text.trim c.clauseSql.toList) = c.clause := by
  rw [toList_clauseSql]
  split
  · rw [Text.trim_nil, ‹c.clause = ""›, String.ofList_nil]
  · rw [Text.trim_cons_of_isBlank _ (by decide)]
    exact hclause

/-! ## The whole text

A rendered command has no blank at either end: every part, if it is there at all, ends in a visible
character. -/

/-- The text does not end in a blank. -/
def EndsVisible (s : List Char) : Prop := ∀ ch ∈ s.getLast?, Text.isBlank ch = false

theorem EndsVisible.append {s t : List Char} (hs : EndsVisible s) (ht : EndsVisible t) :
    EndsVisible (s ++ t) := by
  intro ch hch
  rw [List.getLast?_append, Option.mem_def, Option.or_eq_some_iff] at hch
  rcases hch with hch | ⟨_, hch⟩
  · exact ht ch hch
  · exact hs ch hch

theorem endsVisible_of_forall {s : List Char} (h : ∀ ch ∈ s, Text.isBlank ch = false) :
    EndsVisible s :=
  fun ch hch => h ch (List.mem_of_getLast? hch)

theorem endsVisible_of_any {s : List Char} (h : s.any Text.isBlank = false) : EndsVisible s :=
  endsVisible_of_forall fun ch hch => Bool.eq_false_iff.mpr (List.any_eq_false.mp h ch hch)

theorem endsVisible_renderColumns (columns : Columns) :
    EndsVisible (renderColumns columns).toList := by
  cases columns with
  | all => exact endsVisible_of_any (by decide)
  | named names =>
    rw [renderColumns, String.toList_append]
    intro ch hch
    rw [List.getLast?_append] at hch
    obtain rfl : ')' = ch := by simpa using hch
    decide

theorem endsVisible_renderSelector {c : Command} (h : c.WellFormed) :
    EndsVisible c.renderSelector.toList := by
  unfold renderSelector
  split
  · rw [String.toList_append]
    exact (endsVisible_of_any (by decide)).append (endsVisible_of_forall fun ch hch =>
      Text.isBlank_of_isNameChar ((isWord_name _).chars ch hch))
  · rename_i row _ hrow
    rw [String.toList_append]
    exact (endsVisible_of_any (by decide)).append (endsVisible_of_forall fun ch hch =>
      Text.isBlank_of_isNameChar (Text.isNameChar_of_isDigit ((h.row row hrow).chars ch hch)))
  · exact endsVisible_of_any (by decide)

theorem endsVisible_optionChars {options : List String}
    (hoptions : ∀ option ∈ options, IsWord option) : EndsVisible (optionChars options) := by
  refine endsVisible_of_forall fun ch hch => ?_
  have h := isOptionChar_of_mem_optionChars hoptions ch hch
  rw [isOptionChar, Bool.or_eq_true, beq_iff_eq] at h
  rcases h with h | rfl
  · exact Text.isBlank_of_isNameChar h
  · decide

theorem endsVisible_clauseSql {c : Command} (hclause : Text.trimmed c.clause = c.clause) :
    EndsVisible c.clauseSql.toList := by
  have htrim : Text.trim c.clause.toList = c.clause.toList := by
    have := congrArg String.toList hclause
    rwa [Text.trimmed, String.toList_ofList] at this
  rw [toList_clauseSql]
  split
  · exact endsVisible_of_any (by decide)
  · intro ch hch
    have hne : c.clause.toList ≠ [] := by simpa using ‹¬c.clause = ""›
    rw [List.getLast?_cons_of_ne_nil hne, ← htrim] at hch
    exact Text.getLast?_trim c.clause.toList ch hch

theorem trim_render {c : Command} (h : c.WellFormed) :
    Text.trim c.render.toList = c.render.toList := by
  rw [toList_render]
  refine Text.trim_eq_self ?_ ?_
  · intro ch hch
    obtain rfl : '[' = ch := by simpa using hch
    decide
  · have hdigits : EndsVisible (Nat.toDigits 10 c.connection.toNat) :=
      endsVisible_of_forall fun ch hch => Text.isBlank_of_isNameChar (Text.isNameChar_of_isDigit
        (Nat.isDigit_of_mem_toDigits (by decide) (by decide) hch))
    have htable : EndsVisible c.table.toList :=
      endsVisible_of_forall fun ch hch => Text.isBlank_of_isNameChar (h.table ch hch)
    have hopen : EndsVisible ['['] := endsVisible_of_any (by decide)
    have hclose : EndsVisible [']'] := endsVisible_of_any (by decide)
    exact hopen.append (hdigits.append (hclose.append (htable.append
      ((endsVisible_renderColumns c.columns).append ((endsVisible_renderSelector h).append
        ((endsVisible_optionChars h.options).append (endsVisible_clauseSql h.clause)))))))

/-- **The parts after the connection are read back.** -/
theorem readParts_render {c : Command} (h : c.WellFormed) :
    readParts c.connection (c.table.toList ++ ((renderColumns c.columns).toList ++
      (c.renderSelector.toList ++ (optionChars c.options ++ c.clauseSql.toList)))) = .ok c := by
  have hclause := startsIn_clauseSql c
  have hoptions := startsIn_optionChars c.options hclause
  have hselector := startsIn_renderSelector c hoptions
  have hcolumns := startsIn_renderColumns c.columns hselector
  obtain ⟨body, hbody, hread⟩ := read_columns h.columns_ne_nil h.columns hselector
  obtain ⟨tokens, htokens, hreadOptions⟩ := read_options h.options hclause
  have hfinish := trim_clauseSql h.clause
  simp only [readParts, tablePart_append h.table hcolumns, hbody, read_selector h.row hoptions,
    htokens, hread, hreadOptions, hfinish, String.ofList_toList]
  obtain ⟨connection, table, columns, rowId, verb, options, clause⟩ := c
  -- The selector decides which of the three forms of the record is built.
  cases verb with
  | some verb =>
    obtain rfl : rowId = none := by simpa using h.selector
    simp only [shownSelector, String.ofList_toList, ofName_name]
  | none =>
    cases rowId with
    | some row => simp only [shownSelector, String.ofList_toList]
    | none => rfl

/-- **The text of a well-formed command is read as that command.** -/
theorem parse_render {c : Command} (h : c.WellFormed) : parse c.render = .ok c := by
  have hread := readConnection_digits c.connection (c.table.toList ++
    ((renderColumns c.columns).toList ++ (c.renderSelector.toList ++
      (optionChars c.options ++ c.clauseSql.toList))))
  rw [parse, trim_render h, toList_render, hread]
  exact readParts_render h

/-! ## What the reader gives

Each part of a command that was read is well formed by the class of characters it was taken from. -/

theorem isNameChar_of_mem_tablePart {s : List Char} :
    ∀ ch ∈ (tablePart s).1, Text.isNameChar ch = true := by
  intro ch hch
  rw [tablePart] at hch
  split at hch
  · exact List.mem_takeWhile_imp hch
  · exact absurd hch List.not_mem_nil

theorem isColumnChar_of_columnsPart? {s body rest : List Char}
    (h : columnsPart? s = some (body, rest)) : ∀ ch ∈ body, isColumnChar ch = true := by
  intro ch hch
  unfold columnsPart? at h
  split at h
  · split at h
    · cases h
    · cases h
      exact List.mem_takeWhile_imp hch
    · cases h
  · cases h

theorem isDigits_of_selectorPart? {s digits rest : List Char}
    (h : selectorPart? s = some (.row digits, rest)) : IsDigits (.ofList digits) := by
  unfold selectorPart? at h
  split at h
  · split at h <;> cases h
  · split at h
    · cases h
    · rename_i hne
      cases h
      refine ⟨?_, fun ch hch => ?_⟩
      · intro hempty
        exact hne (String.ofList_eq_empty_iff.mp hempty)
      · rw [String.toList_ofList] at hch
        exact List.mem_takeWhile_imp hch
  · cases h

theorem isOptionChar_of_optionsPart? {s body rest : List Char}
    (h : optionsPart? s = some (body, rest)) : ∀ ch ∈ body, isOptionChar ch = true := by
  intro ch hch
  unfold optionsPart? at h
  split at h
  · split at h
    · cases h
    · cases h
      exact List.mem_takeWhile_imp hch
  · cases h

/-- A piece between commas is trimmed, not empty, and has neither comma nor parenthesis. -/
theorem isColumnName_of_mem_columnNames {body name : List Char}
    (hbody : ∀ ch ∈ body, isColumnChar ch = true) (hname : name ∈ columnNames body) :
    IsColumnName (.ofList name) := by
  rw [columnNames, List.mem_filter, List.mem_map] at hname
  obtain ⟨⟨piece, hpiece, rfl⟩, hkept⟩ := hname
  refine ⟨?_, ?_, fun ch hch => ?_⟩
  · intro hempty
    rw [String.ofList_eq_empty_iff] at hempty
    rw [hempty] at hkept
    exact absurd hkept (by decide)
  · rw [Text.trimmed, String.toList_ofList, Text.trim_trim]
  · rw [String.toList_ofList] at hch
    have hmem := Text.mem_of_mem_trim hch
    have hcomma : ch ≠ ',' := fun h => Text.notMem_splitOn hpiece (h ▸ hmem)
    have hclass := hbody ch (Text.mem_splitOn hpiece hmem)
    simpa [isColumnChar, hcomma] using hclass

theorem columnsOf_wellFormed {body : List Char} (hbody : ∀ ch ∈ body, isColumnChar ch = true) :
    columnsOf body ≠ .named [] ∧ ∀ name ∈ (columnsOf body).names, IsColumnName name := by
  have hnames : ∀ name ∈ columnNames body, IsColumnName (.ofList name) := fun _ hname =>
    isColumnName_of_mem_columnNames hbody hname
  rw [columnsOf]
  split
  · exact ⟨by decide, fun name hname => absurd hname List.not_mem_nil⟩
  · rename_i hne
    refine ⟨fun h => ?_, fun name hname => ?_⟩
    · exact hne (List.map_eq_nil_iff.mp (Columns.named.inj h))
    · obtain ⟨l, hl, rfl⟩ := List.mem_map.mp hname
      exact hnames l hl

theorem isWord_of_mem_optionTokens {body : List Char} (hbody : ∀ ch ∈ body, isOptionChar ch = true)
    {option : String} (hoption : option ∈ optionTokens body) : IsWord option := by
  rw [optionTokens, List.mem_map] at hoption
  obtain ⟨piece, hpiece, rfl⟩ := hoption
  obtain ⟨hpiece, hkept⟩ := List.mem_filter.mp hpiece
  refine ⟨?_, fun ch hch => ?_⟩
  · intro hempty
    rw [String.ofList_eq_empty_iff] at hempty
    rw [hempty] at hkept
    exact absurd hkept (by decide)
  · rw [String.toList_ofList] at hch
    have hslash : ch ≠ '/' := fun h => Text.notMem_splitOn hpiece (h ▸ hch)
    have hclass := hbody ch (Text.mem_splitOn hpiece hch)
    simpa [isOptionChar, hslash] using hclass

/-- What an optional part gives comes from the part. -/
theorem optionalPart_eq_some {α : Type} {part : Option (α × List Char)} {s : List Char} {a : α}
    (h : (optionalPart part s).1 = some a) : ∃ rest, part = some (a, rest) := by
  cases part with
  | none => cases h
  | some read =>
    obtain ⟨b, rest⟩ := read
    cases h
    exact ⟨rest, rfl⟩

theorem columns_of_optionalPart (s : List Char) :
    ((optionalPart (columnsPart? s) s).1.map columnsOf).getD .all ≠ .named [] ∧
      ∀ name ∈ (((optionalPart (columnsPart? s) s).1.map columnsOf).getD .all).names,
        IsColumnName name := by
  cases hbody : (optionalPart (columnsPart? s) s).1 with
  | none => exact ⟨by decide, fun name hname => absurd hname List.not_mem_nil⟩
  | some body =>
    obtain ⟨rest, hpart⟩ := optionalPart_eq_some hbody
    exact columnsOf_wellFormed (isColumnChar_of_columnsPart? hpart)

theorem options_of_optionalPart (s : List Char) :
    ∀ option ∈ ((optionalPart (optionsPart? s) s).1.map optionTokens).getD [], IsWord option := by
  cases hbody : (optionalPart (optionsPart? s) s).1 with
  | none => exact fun option hoption => absurd hoption List.not_mem_nil
  | some body =>
    obtain ⟨rest, hpart⟩ := optionalPart_eq_some hbody
    exact fun option hoption =>
      isWord_of_mem_optionTokens (isOptionChar_of_optionsPart? hpart) hoption

/-- **The reader gives well-formed commands only**, whatever the text after the connection. -/
theorem wellFormed_of_readParts {connection : ConnectionId} {s : List Char} {c : Command}
    (h : readParts connection s = .ok c) : c.WellFormed := by
  simp only [readParts] at h
  have hnames := columns_of_optionalPart (tablePart s).2
  generalize optionalPart (columnsPart? (tablePart s).2) (tablePart s).2 = columns at h hnames
  generalize hselector : optionalPart (selectorPart? columns.2) columns.2 = selector at h
  have hwords := options_of_optionalPart selector.2
  generalize optionalPart (optionsPart? selector.2) selector.2 = options at h hwords
  have htable : ∀ ch ∈ (String.ofList (tablePart s).1).toList, Text.isNameChar ch = true := by
    rw [String.toList_ofList]
    exact isNameChar_of_mem_tablePart
  have hclause : Text.trimmed (.ofList (Text.trim options.2)) = .ofList (Text.trim options.2) := by
    rw [Text.trimmed, String.toList_ofList, Text.trim_trim]
  split at h
  · split at h
    · cases h
      exact ⟨htable, hnames.1, hnames.2, .inr rfl, fun _ hrow => (by cases hrow), hwords, hclause⟩
    · cases h
  · rename_i digits hrow
    cases h
    obtain ⟨rest, hpart⟩ := optionalPart_eq_some (by rw [hselector, hrow])
    refine ⟨htable, hnames.1, hnames.2, .inl rfl, fun row hrow => ?_, hwords, hclause⟩
    obtain rfl := Option.some.inj hrow
    exact isDigits_of_selectorPart? hpart
  · cases h
    exact ⟨htable, hnames.1, hnames.2, .inl rfl, fun _ hrow => (by cases hrow), hwords, hclause⟩

theorem wellFormed_of_parse {text : String} {c : Command} (h : parse text = .ok c) :
    c.WellFormed := by
  rw [parse] at h
  split at h
  · exact wellFormed_of_readParts h
  · cases h

/-- **Command and text denote each other.**  A command that was read, and any well-formed command,
is read back from its text; and the reader gives no other commands. -/
theorem command_text_round_trip :
    (∀ text c, parse text = .ok c → parse c.render = .ok c) ∧
    (∀ c : Command, c.WellFormed → parse c.render = .ok c) ∧
    (∀ text c, parse text = .ok c → c.WellFormed) :=
  ⟨fun _ _ h => parse_render (wellFormed_of_parse h), fun _ h => parse_render h,
    fun _ _ h => wellFormed_of_parse h⟩

/-- A text whose clause begins like a column list: read, rendered, and read again. -/
theorem command_text_round_trip_select :
    let c : Command :=
      { connection := 7, table := "users", columns := .named ["id", "e mail"],
        options := ["first"], clause := "(a)" }
    parse " [07]users(id ,, e mail )/first  (a) " = .ok c ∧
      c.render = "[7]users(id, e mail)/first (a)" ∧ parse c.render = .ok c ∧ c.WellFormed := by
  intro c
  have h : parse " [07]users(id ,, e mail )/first  (a) " = .ok c := by cbv
  have hwf := command_text_round_trip.2.2 _ _ h
  exact ⟨h, by cbv, command_text_round_trip.2.1 c hwf, hwf⟩

end SqlShorthand.Command
