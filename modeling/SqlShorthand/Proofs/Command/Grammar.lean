import SqlShorthand.Proofs.Text
import SqlShorthand.Command.Reader

/-!
# Proofs/Command/Grammar — the reader takes the longest pieces, and loses nothing

A command is a text cut into pieces, each the longest that its rule allows in its place, and a rest.
There is one such cut (`IsCut.unique`), and the reader finds it (`isCut_cut`).  The pieces alone say
what the text denotes (`Denotes`), or why it denotes nothing (`Fails`):

* `parse_eq_error_iff` — the reader fails in the three cases of `Fails`, and in no other;
* `denotes_of_parse` — a command that was read is what the pieces say, its clause the trimmed rest.

The engine is one lemma for all parts that may be missing (`Reads.longest`): a part that reads every
text its rule allows, and takes at least as much, has taken the longest.
-/

namespace SqlShorthand.Command

/-! ## Rules -/

/-- Which piece may be taken in front of a text. -/
abbrev Rule := List Char → List Char → Prop

/-- Some characters of a class. -/
structure IsRun (p : Char → Bool) (s : List Char) : Prop where
  ne_nil : s ≠ []
  chars : ∀ c ∈ s, p c = true

/-- A text between two characters. -/
def enclose (l r : Char) (body : List Char) : List Char := l :: (body ++ [r])

/-- Some characters of a class, between two others. -/
def enclosedRule (l r : Char) (p : Char → Bool) : Rule := fun piece _ =>
  ∃ body, IsRun p body ∧ piece = enclose l r body

/-- Some characters of a class, after another. -/
def headedRule (h : Char) (p : Char → Bool) : Rule := fun piece _ =>
  ∃ body, IsRun p body ∧ piece = h :: body

/-- `[digits]`. -/
def connectionRule : Rule := enclosedRule '[' ']' Char.isDigit

/-- A name before one of `: . / (`, a space, a tab, a line break or the end. -/
def tableRule : Rule := fun piece after => IsRun Text.isNameChar piece ∧
  ∀ c ∈ after.head?, c ∈ [':', '.', '/', '(', ' ', '\t', '\r', '\n']

/-- Names, commas and blanks in parentheses. -/
def columnsRule : Rule := enclosedRule '(' ')' isColumnChar

/-- `:word` or `.digits`. -/
def selectorRule : Rule := fun piece after =>
  headedRule ':' Text.isNameChar piece after ∨ headedRule '.' Char.isDigit piece after

/-- A slash, and then names and slashes. -/
def optionsRule : Rule := headedRule '/' isOptionChar

/-- **The longest piece that a rule allows**, none if it allows none. -/
structure Longest (rule : Rule) (piece after : List Char) : Prop where
  allowed : piece = [] ∨ rule piece after
  longest : ∀ other after', other ++ after' = piece ++ after → rule other after' →
    other.length ≤ piece.length

theorem Longest.length_le {rule : Rule} {piece after other after' : List Char}
    (h : Longest rule piece after) (h' : Longest rule other after')
    (htext : other ++ after' = piece ++ after) : other.length ≤ piece.length := by
  obtain rfl | hrule := h'.allowed
  · exact Nat.zero_le _
  · exact h.longest other after' htext hrule

/-- A text has one longest piece. -/
theorem Longest.unique {rule : Rule} {piece after other after' : List Char}
    (h : Longest rule piece after) (h' : Longest rule other after')
    (htext : other ++ after' = piece ++ after) : other = piece ∧ after' = after :=
  List.append_inj htext ((h.length_le h' htext).antisymm (h'.length_le h htext.symm))

/-! ## Pieces -/

/-- A text in pieces. -/
structure Pieces where
  connection : List Char
  table : List Char
  columns : List Char
  selector : List Char
  options : List Char
  rest : List Char

/-- **The pieces make up the text, each the longest in its place.** -/
structure IsCut (p : Pieces) (t : List Char) : Prop where
  text : t = p.connection ++ (p.table ++ (p.columns ++ (p.selector ++ (p.options ++ p.rest))))
  connection : Longest connectionRule p.connection
    (p.table ++ (p.columns ++ (p.selector ++ (p.options ++ p.rest))))
  table : Longest tableRule p.table (p.columns ++ (p.selector ++ (p.options ++ p.rest)))
  columns : Longest columnsRule p.columns (p.selector ++ (p.options ++ p.rest))
  selector : Longest selectorRule p.selector (p.options ++ p.rest)
  options : Longest optionsRule p.options p.rest

/-- **There is one way to cut a text.** -/
theorem IsCut.unique {p q : Pieces} {t : List Char} (hp : IsCut p t) (hq : IsCut q t) : q = p := by
  obtain ⟨hconnection, htext⟩ := hp.connection.unique hq.connection (hq.text.symm.trans hp.text)
  obtain ⟨htable, htext⟩ := hp.table.unique hq.table htext
  obtain ⟨hcolumns, htext⟩ := hp.columns.unique hq.columns htext
  obtain ⟨hselector, htext⟩ := hp.selector.unique hq.selector htext
  obtain ⟨hoptions, hrest⟩ := hp.options.unique hq.options htext
  obtain ⟨_, _, _, _, _, _⟩ := q
  subst hconnection htable hcolumns hselector hoptions hrest
  rfl

/-! ## The parts of the reader

Each part takes what its rule allows, and takes at least as much as the rule allows. -/

/-- The text of a part that may be missing. -/
def sourceOf {α : Type} (write : α → List Char) : Option α → List Char
  | some a => write a
  | none => []

/-- A part reads the pieces of a rule. -/
structure Reads {α : Type} (part : List Char → Option (α × List Char)) (write : α → List Char)
    (rule : Rule) : Prop where
  sound : ∀ {s a after}, part s = some (a, after) → s = write a ++ after ∧ rule (write a) after
  complete : ∀ {piece after}, rule piece after → ∃ a after',
    part (piece ++ after) = some (a, after') ∧ piece.length ≤ (write a).length

section Parts

variable {α : Type} {part : List Char → Option (α × List Char)} {write : α → List Char}
  {rule : Rule}

/-- **What a part takes and what it leaves are the text.** -/
theorem Reads.append (h : Reads part write rule) (s : List Char) :
    sourceOf write (optionalPart (part s) s).1 ++ (optionalPart (part s) s).2 = s := by
  rcases hpart : part s with _ | ⟨a, after⟩
  · rfl
  · exact (h.sound hpart).1.symm

/-- **What a part takes is the longest its rule allows.** -/
theorem Reads.longest (h : Reads part write rule) (s : List Char) :
    Longest rule (sourceOf write (optionalPart (part s) s).1) (optionalPart (part s) s).2 := by
  have hlongest : ∀ other after', other ++ after' = s → rule other after' →
      other.length ≤ (sourceOf write (optionalPart (part s) s).1).length := by
    rintro other after' rfl hrule
    obtain ⟨a, after, hpart, hle⟩ := h.complete hrule
    rwa [hpart]
  refine ⟨?_, fun other after' htext => hlongest other after' (htext.trans (h.append s))⟩
  rcases hpart : part s with _ | ⟨a, after⟩
  · exact .inl rfl
  · exact .inr (h.sound hpart).2

end Parts

theorem isRun_takeWhile {p : Char → Bool} {s : List Char} (h : s.takeWhile p ≠ []) :
    IsRun p (s.takeWhile p) := ⟨h, fun _ hc => List.mem_takeWhile_imp hc⟩

/-- Reads a text between two characters. -/
def enclosed? (l r : Char) (p : Char → Bool) : List Char → Option (List Char × List Char)
  | [] => none
  | c :: s =>
    if c = l ∧ s.takeWhile p ≠ [] ∧ (s.dropWhile p).head? = some r then
      some (s.takeWhile p, (s.dropWhile p).tail)
    else none

theorem enclosed?_enclose {l r : Char} {p : Char → Bool} (hr : p r = false) {body : List Char}
    (hbody : IsRun p body) (after : List Char) :
    enclosed? l r p (enclose l r body ++ after) = some (body, after) := by
  have hstop : ∀ c ∈ (r :: after).head?, p c = false := by simpa using hr
  rw [enclose, List.cons_append, List.append_assoc, List.singleton_append, enclosed?,
    Text.takeWhile_run hbody.chars hstop, Text.dropWhile_run hbody.chars hstop]
  exact if_pos ⟨rfl, hbody.ne_nil, rfl⟩

/-- The closing character ends the run, so there is one way to enclose a text. -/
theorem reads_enclosed {l r : Char} {p : Char → Bool} (hr : p r = false) :
    Reads (enclosed? l r p) (enclose l r) (enclosedRule l r p) where
  sound {s body after} h := by
    rw [enclosed?.eq_def] at h
    split at h
    · cases h
    · rename_i c s
      split_ifs at h with hopen
      obtain ⟨rfl, hne, hclose⟩ := hopen
      cases h
      obtain ⟨tail, htail⟩ := List.head?_eq_some_iff.mp hclose
      refine ⟨?_, _, isRun_takeWhile hne, rfl⟩
      rw [enclose, htail, List.tail_cons, List.cons_append, List.append_assoc,
        List.singleton_append, ← htail, List.takeWhile_append_dropWhile]
  complete {piece after} h := by
    obtain ⟨body, hbody, rfl⟩ := h
    exact ⟨body, after, enclosed?_enclose hr hbody after, le_rfl⟩

/-- Reads the run after a character. -/
def headed? (h : Char) (p : Char → Bool) : List Char → Option (List Char × List Char)
  | [] => none
  | c :: s => if c = h ∧ s.takeWhile p ≠ [] then some (s.takeWhile p, s.dropWhile p) else none

theorem reads_headed (l : Char) (p : Char → Bool) :
    Reads (headed? l p) (l :: ·) (headedRule l p) where
  sound {s body after} h := by
    rw [headed?.eq_def] at h
    split at h
    · cases h
    · split_ifs at h with hhead
      obtain ⟨rfl, hne⟩ := hhead
      cases h
      refine ⟨?_, _, isRun_takeWhile hne, rfl⟩
      rw [List.cons_append, List.takeWhile_append_dropWhile]
  complete {piece after} h := by
    obtain ⟨body, hbody, rfl⟩ := h
    have hrun : (body ++ after).takeWhile p = body ++ after.takeWhile p :=
      List.takeWhile_append_of_pos hbody.chars
    have hne : (body ++ after).takeWhile p ≠ [] := by
      rw [hrun]
      exact List.append_ne_nil_of_left_ne_nil hbody.ne_nil _
    refine ⟨(body ++ after).takeWhile p, (body ++ after).dropWhile p, if_pos ⟨rfl, hne⟩, ?_⟩
    simp [hrun]

section Enclosed

variable {l r : Char} {p : Char → Bool} {s : List Char}

theorem enclosed?_eq_some {rest : List Char} (hne : s.takeWhile p ≠ [])
    (hrest : s.dropWhile p = r :: rest) :
    enclosed? l r p (l :: s) = some (s.takeWhile p, rest) := by
  rw [enclosed?, hrest]
  exact if_pos ⟨rfl, hne, rfl⟩

theorem enclosed?_eq_none_of_body (hnil : s.takeWhile p = []) : enclosed? l r p (l :: s) = none :=
  if_neg fun hopen => hopen.2.1 hnil

theorem enclosed?_eq_none_of_rest (hrest : ∀ rest, s.dropWhile p ≠ r :: rest) :
    enclosed? l r p (l :: s) = none := by
  refine if_neg fun hopen => ?_
  obtain ⟨tail, htail⟩ := List.head?_eq_some_iff.mp hopen.2.2
  exact hrest tail htail

theorem enclosed?_eq_none (h : ∀ t, s ≠ l :: t) : enclosed? l r p s = none := by
  match s with
  | [] => rfl
  | _ :: t => exact if_neg fun hopen => h t (congrArg (· :: t) hopen.1)

theorem headed?_eq_some (hne : s.takeWhile p ≠ []) :
    headed? l p (l :: s) = some (s.takeWhile p, s.dropWhile p) := if_pos ⟨rfl, hne⟩

theorem headed?_eq_none_of_body (hnil : s.takeWhile p = []) : headed? l p (l :: s) = none :=
  if_neg fun hhead => hhead.2 hnil

theorem headed?_eq_none (h : ∀ t, s ≠ l :: t) : headed? l p s = none := by
  match s with
  | [] => rfl
  | _ :: t => exact if_neg fun hhead => h t (congrArg (· :: t) hhead.1)

end Enclosed

theorem connectionPart?_eq (s : List Char) :
    connectionPart? s = enclosed? '[' ']' Char.isDigit s := by
  unfold connectionPart?
  split
  · split
    · exact (enclosed?_eq_none_of_body ‹_›).symm
    · exact (enclosed?_eq_some ‹_› ‹_›).symm
    · exact (enclosed?_eq_none_of_rest ‹_›).symm
  · exact (enclosed?_eq_none ‹_›).symm

theorem columnsPart?_eq (s : List Char) :
    columnsPart? s = enclosed? '(' ')' isColumnChar s := by
  unfold columnsPart?
  split
  · split
    · exact (enclosed?_eq_none_of_body ‹_›).symm
    · exact (enclosed?_eq_some ‹_› ‹_›).symm
    · exact (enclosed?_eq_none_of_rest ‹_›).symm
  · exact (enclosed?_eq_none ‹_›).symm

theorem optionsPart?_eq (s : List Char) : optionsPart? s = headed? '/' isOptionChar s := by
  unfold optionsPart?
  split
  · split
    · exact (headed?_eq_none_of_body ‹_›).symm
    · exact (headed?_eq_some ‹_›).symm
  · exact (headed?_eq_none ‹_›).symm

/-- The text of a selector. -/
def Selector.source : Selector → List Char
  | .verb name => ':' :: name
  | .row digits => '.' :: digits

theorem selectorPart?_eq (s : List Char) : selectorPart? s =
    ((headed? ':' Text.isNameChar s).map (Prod.map .verb id)).or
      ((headed? '.' Char.isDigit s).map (Prod.map .row id)) := by
  unfold selectorPart?
  split
  · rw [headed?_eq_none (l := '.') (by simp)]
    split
    · rw [headed?_eq_none_of_body ‹_›]
      rfl
    · rw [headed?_eq_some ‹_›]
      rfl
  · rw [headed?_eq_none (l := ':') (by simp)]
    split
    · rw [headed?_eq_none_of_body ‹_›]
      rfl
    · rw [headed?_eq_some ‹_›]
      rfl
  · rename_i hverb hrow
    rw [headed?_eq_none hverb, headed?_eq_none hrow]
    rfl

theorem reads_connection : Reads connectionPart? (enclose '[' ']') connectionRule :=
  funext connectionPart?_eq ▸ reads_enclosed (by decide)

theorem reads_columns : Reads columnsPart? (enclose '(' ')') columnsRule :=
  funext columnsPart?_eq ▸ reads_enclosed (by decide)

theorem reads_options : Reads optionsPart? ('/' :: ·) optionsRule :=
  funext optionsPart?_eq ▸ reads_headed '/' isOptionChar

theorem reads_selector : Reads selectorPart? Selector.source selectorRule where
  sound {s selector after} h := by
    rw [selectorPart?_eq, Option.or_eq_some_iff, Option.map_eq_some_iff,
      Option.map_eq_some_iff] at h
    obtain ⟨_, hpart, hread⟩ | ⟨-, _, hpart, hread⟩ := h
    · cases hread
      exact ((reads_headed _ _).sound hpart).imp_right .inl
    · cases hread
      exact ((reads_headed _ _).sound hpart).imp_right .inr
  complete {piece after} h := by
    obtain h | h := h
    · obtain ⟨name, after', hpart, hle⟩ := (reads_headed _ _).complete h
      exact ⟨.verb name, after', by rw [selectorPart?_eq, hpart]; rfl, hle⟩
    · obtain ⟨digits, after', hpart, hle⟩ := (reads_headed _ _).complete h
      obtain ⟨body, -, rfl⟩ := h
      have hverb : headed? ':' Text.isNameChar ('.' :: body ++ after) = none :=
        headed?_eq_none (by simp)
      exact ⟨.row digits, after', by rw [selectorPart?_eq, hverb, hpart]; rfl, hle⟩

/-! ### The table

The table alone looks at what follows it; a name that nothing follows as it should is no table. -/

theorem endsTable_iff (s : List Char) : endsTable s = true ↔
    ∀ c ∈ s.head?, c ∈ [':', '.', '/', '(', ' ', '\t', '\r', '\n'] := by
  match s with
  | [] => simp [endsTable]
  | c :: s => simp [endsTable]

theorem tablePart_of_tableRule {piece after : List Char} (h : tableRule piece after) :
    tablePart (piece ++ after) = (piece, after) := by
  obtain ⟨hrun, hends⟩ := h
  have hstop : ∀ c ∈ after.head?, Text.isNameChar c = false := by
    intro c hc
    have hall : [':', '.', '/', '(', ' ', '\t', '\r', '\n'].all (!Text.isNameChar ·) = true := by
      decide
    simpa using List.all_eq_true.mp hall c (hends c hc)
  rw [tablePart, Text.takeWhile_run hrun.chars hstop, Text.dropWhile_run hrun.chars hstop]
  exact if_pos (by simp [hrun.ne_nil, (endsTable_iff after).mpr hends])

theorem append_tablePart (s : List Char) : (tablePart s).1 ++ (tablePart s).2 = s := by
  rw [tablePart]
  split_ifs
  · exact List.takeWhile_append_dropWhile
  · rfl

theorem longest_tablePart (s : List Char) :
    Longest tableRule (tablePart s).1 (tablePart s).2 := by
  refine ⟨?_, fun other after' htext hrule => ?_⟩
  · rw [tablePart]
    split_ifs with hname
    · rw [Bool.and_eq_true, endsTable_iff] at hname
      exact .inr ⟨isRun_takeWhile (by simpa using hname.1), hname.2⟩
    · exact .inl rfl
  · rw [append_tablePart] at htext
    rw [← htext, tablePart_of_tableRule hrule]

/-! ## The cut that the reader finds -/

/-- What the reader takes after the connection. -/
structure Taken where
  table : List Char
  columns : Option (List Char)
  selector : Option Selector
  options : Option (List Char)
  rest : List Char

def taken (s : List Char) : Taken :=
  let table := tablePart s
  let columns := optionalPart (columnsPart? table.2) table.2
  let selector := optionalPart (selectorPart? columns.2) columns.2
  let options := optionalPart (optionsPart? selector.2) selector.2
  { table := table.1, columns := columns.1, selector := selector.1, options := options.1,
    rest := options.2 }

/-- The pieces that the reader takes. -/
def cut (t : List Char) : Pieces :=
  let connection := optionalPart (connectionPart? t) t
  { connection := sourceOf (enclose '[' ']') connection.1
    table := (taken connection.2).table
    columns := sourceOf (enclose '(' ')') (taken connection.2).columns
    selector := sourceOf Selector.source (taken connection.2).selector
    options := sourceOf ('/' :: ·) (taken connection.2).options
    rest := (taken connection.2).rest }

/-- **The reader cuts the text.** -/
theorem isCut_cut (t : List Char) : IsCut (cut t) t := by
  let table := tablePart (optionalPart (connectionPart? t) t).2
  let columns := optionalPart (columnsPart? table.2) table.2
  let selector := optionalPart (selectorPart? columns.2) columns.2
  have hoptions : (cut t).options ++ (cut t).rest = selector.2 := reads_options.append _
  have hselector : (cut t).selector ++ selector.2 = columns.2 := reads_selector.append _
  have hcolumns : (cut t).columns ++ columns.2 = table.2 := reads_columns.append _
  have htable : (cut t).table ++ table.2 = _ := append_tablePart _
  refine ⟨?_, ?_, ?_, ?_, ?_, reads_options.longest _⟩ <;> rw [hoptions]
  · rw [hselector, hcolumns, htable]
    exact (reads_connection.append t).symm
  · rw [hselector, hcolumns, htable]
    exact reads_connection.longest t
  · rw [hselector, hcolumns]
    exact longest_tablePart _
  · rw [hselector]
    exact reads_columns.longest _
  · exact reads_selector.longest _

/-! ## What the pieces say -/

/-- **The connection that the pieces name**: the standard one where no bracket opens, else that of
the number in brackets. -/
inductive Connects (t : List Char) (p : Pieces) : ConnectionId → Prop where
  | standard (hopen : t.head? ≠ some '[') : Connects t p defaultConnection
  | numbered {digits : List Char} {id : ConnectionId}
      (hpiece : p.connection = enclose '[' ']' digits)
      (hid : id.toNat = Decimal.valueFrom 0 digits) : Connects t p id

/-- **Why a text denotes nothing**: an open bracket without a number in brackets, a number that is
too large, or — with nothing wrong about the connection — a word that spells no verb. -/
inductive Fails (t : List Char) (p : Pieces) : Error → Prop where
  | brackets (hopen : t.head? = some '[')
      (hnone : ∀ piece after, t = piece ++ after → ¬connectionRule piece after) :
      Fails t p .connectionSyntax
  | number {digits after : List Char} (hdigits : IsRun Char.isDigit digits)
      (htext : t = enclose '[' ']' digits ++ after)
      (hlarge : 2 ^ 32 - 1 < Decimal.valueFrom 0 digits) :
      Fails t p (.connectionRange (.ofList digits))
  | verb {id : ConnectionId} {name : List Char} (hconnects : Connects t p id)
      (hselector : p.selector = (Selector.verb name).source)
      (hname : .ofList name ∉ Verb.spellings.map Prod.fst) :
      Fails t p (.unknownVerb (.ofList name))

/-- What a selector makes of a command. -/
def Selects (c : Command) : Option Selector → Prop
  | none => c.verb = none ∧ c.rowId = none
  | some (.verb name) =>
    c.rowId = none ∧ ∃ verb, c.verb = some verb ∧ (String.ofList name, verb) ∈ Verb.spellings
  | some (.row digits) => c.verb = none ∧ c.rowId = some (.ofList digits)

/-- **The command that the pieces denote.** -/
structure Denotes (t : List Char) (p : Pieces) (c : Command) : Prop where
  connection : Connects t p c.connection
  table : c.table = .ofList p.table
  columns : ∃ body, p.columns = sourceOf (enclose '(' ')') body ∧
    c.columns = (body.map columnsOf).getD .all
  selector : ∃ selector, p.selector = sourceOf Selector.source selector ∧ c.Selects selector
  options : ∃ body, p.options = sourceOf ('/' :: ·) body ∧
    c.options = (body.map optionTokens).getD []
  clause : c.clause = .ofList (Text.trim p.rest)

/-! ## The connection -/

theorem connectionPart?_enclose {digits : List Char} (hdigits : IsRun Char.isDigit digits)
    (after : List Char) :
    connectionPart? (enclose '[' ']' digits ++ after) = some (digits, after) :=
  (connectionPart?_eq _).trans (enclosed?_enclose (by decide) hdigits after)

/-- Without an open bracket, there is nothing to read. -/
theorem connectionPart?_eq_none {t : List Char} (h : t.head? ≠ some '[') :
    connectionPart? t = none := by
  rw [connectionPart?_eq]
  refine enclosed?_eq_none fun s hs => h ?_
  rw [hs, List.head?_cons]

/-- The piece in brackets is the one that was read. -/
theorem connectionPart?_of_cut {t digits : List Char}
    (h : (cut t).connection = enclose '[' ']' digits) :
    ∃ rest, connectionPart? t = some (digits, rest) := by
  change sourceOf (enclose '[' ']') (optionalPart (connectionPart? t) t).1 = _ at h
  rcases hpart : connectionPart? t with _ | ⟨digits', rest⟩
  · rw [hpart] at h
    cases h
  · rw [hpart] at h
    exact ⟨rest, by rw [List.append_cancel_right (List.cons.inj h).2]⟩

/-- **A connection that the pieces name is read.** -/
theorem Connects.readConnection_eq {t : List Char} {id : ConnectionId}
    (h : Connects t (cut t) id) :
    readConnection t = .ok (id, (optionalPart (connectionPart? t) t).2) := by
  obtain hopen | ⟨hpiece, hid⟩ := h
  · rw [readConnection, connectionPart?_eq_none hopen]
    exact if_neg (by simpa using hopen)
  · obtain ⟨rest, hpart⟩ := connectionPart?_of_cut hpiece
    rw [readConnection, hpart]
    dsimp only
    rw [← hid, if_pos id.toNat_lt, UInt32.ofNat_toNat]
    rfl

/-- …and no other is. -/
theorem connects_of_readConnection {t rest : List Char} {id : ConnectionId}
    (h : readConnection t = .ok (id, rest)) :
    Connects t (cut t) id ∧ rest = (optionalPart (connectionPart? t) t).2 := by
  rw [readConnection] at h
  rcases hpart : connectionPart? t with _ | ⟨digits, after⟩ <;> rw [hpart] at h
  · split_ifs at h with hopen
    cases h
    exact ⟨.standard (by simpa using hopen), rfl⟩
  · dsimp only at h
    split_ifs at h with hsmall
    cases h
    have hpiece : (cut t).connection = enclose '[' ']' digits := by
      rw [cut, hpart]
      rfl
    exact ⟨.numbered hpiece (UInt32.toNat_ofNat_of_lt' hsmall), rfl⟩

/-- **A connection is refused where the pieces name none.** -/
theorem fails_of_readConnection {t : List Char} {e : Error} (h : readConnection t = .error e) :
    Fails t (cut t) e := by
  rw [readConnection] at h
  rcases hpart : connectionPart? t with _ | ⟨digits, after⟩ <;> rw [hpart] at h
  · split_ifs at h with hopen
    cases h
    refine .brackets (by simpa using hopen) ?_
    rintro _ after rfl ⟨digits, hdigits, rfl⟩
    rw [connectionPart?_enclose hdigits] at hpart
    cases hpart
  · dsimp only at h
    split_ifs at h with hsmall
    cases h
    obtain ⟨htext, body, hbody, henclose⟩ := reads_connection.sound hpart
    obtain rfl := List.append_cancel_right (List.cons.inj henclose).2
    exact .number hbody htext (Nat.lt_of_succ_le (Nat.not_lt.mp hsmall))

theorem readConnection_brackets {t : List Char} (hopen : t.head? = some '[')
    (hnone : ∀ piece after, t = piece ++ after → ¬connectionRule piece after) :
    readConnection t = .error .connectionSyntax := by
  have hpart : connectionPart? t = none := by
    refine Option.eq_none_iff_forall_ne_some.mpr ?_
    rintro ⟨digits, after⟩ hpart
    obtain ⟨htext, hrule⟩ := reads_connection.sound hpart
    exact hnone _ after htext hrule
  rw [readConnection, hpart]
  exact if_pos (by simp [hopen])

theorem readConnection_number {digits : List Char} (after : List Char)
    (hdigits : IsRun Char.isDigit digits) (hlarge : 2 ^ 32 - 1 < Decimal.valueFrom 0 digits) :
    readConnection (enclose '[' ']' digits ++ after) =
      .error (.connectionRange (.ofList digits)) := by
  rw [readConnection, connectionPart?_enclose hdigits]
  exact if_neg (Nat.not_lt.mpr hlarge)

/-! ## The parts after it -/

/-- The command of what was taken, but for the selector. -/
def Taken.unselected (k : Taken) (id : ConnectionId) : Command where
  connection := id
  table := .ofList k.table
  columns := (k.columns.map columnsOf).getD .all
  options := (k.options.map optionTokens).getD []
  clause := .ofList (Text.trim k.rest)

theorem readParts_eq (id : ConnectionId) (s : List Char) : readParts id s =
    match (taken s).selector with
    | some (.verb name) =>
      match Verb.ofName (.ofList name) with
      | .ok verb => .ok { (taken s).unselected id with verb := some verb }
      | .error e => .error e
    | some (.row digits) => .ok { (taken s).unselected id with rowId := some (.ofList digits) }
    | none => .ok ((taken s).unselected id) := rfl

theorem ofName_eq_ok_iff {name : String} {verb : Verb} :
    Verb.ofName name = .ok verb ↔ Verb.ofName? name = some verb := by
  rw [Verb.ofName]
  split <;> simp [*]

/-- A word is refused exactly if the table of spellings lacks it. -/
theorem ofName_eq_error_iff {name : String} {e : Error} :
    Verb.ofName name = .error e ↔
      name ∉ Verb.spellings.map Prod.fst ∧ e = .unknownVerb name := by
  have hnone : Verb.ofName? name = none ↔ name ∉ Verb.spellings.map Prod.fst := by
    rw [Verb.ofName?, List.lookup_eq_none_iff, List.mem_map, not_exists]
    exact forall_congr' fun spelling => by rw [bne_iff_ne, not_and, Ne, eq_comm]
  rw [Verb.ofName, ← hnone]
  split <;> simp [*, eq_comm]

theorem mem_spellings_of_ofName {name : String} {verb : Verb} (h : Verb.ofName name = .ok verb) :
    (name, verb) ∈ Verb.spellings := by
  rw [ofName_eq_ok_iff, Verb.ofName?, List.lookup_eq_some_iff] at h
  obtain ⟨before, after, hsplit, -⟩ := h
  rw [hsplit]
  simp

/-- The piece of a selector is the one that was read. -/
theorem source_injective {x : Option Selector} {selector : Selector}
    (h : sourceOf Selector.source x = selector.source) : x = some selector := by
  match x, selector with
  | none, .verb _ | none, .row _ => cases h
  | some (.verb _), .verb _ => cases h; rfl
  | some (.row _), .row _ => cases h; rfl
  | some (.verb _), .row _ | some (.row _), .verb _ => cases h

/-- **After the connection, reading fails for an unknown verb only.** -/
theorem readParts_eq_error_iff {id : ConnectionId} {s : List Char} {e : Error} :
    readParts id s = .error e ↔
      ∃ name, (taken s).selector = some (.verb name) ∧
        .ofList name ∉ Verb.spellings.map Prod.fst ∧ e = .unknownVerb (.ofList name) := by
  rw [readParts_eq]
  match (taken s).selector with
  | none => simp
  | some (.row digits) => simp
  | some (.verb name) =>
    have hname : Verb.ofName (.ofList name) = .error e ↔ _ := ofName_eq_error_iff
    dsimp only
    generalize Verb.ofName (.ofList name) = read at hname ⊢
    rcases read with e' | verb
    · simpa using hname
    · simpa using hname

/-- What is read after the connection is what was taken, with a selector that it selects by. -/
theorem selects_of_readParts {id : ConnectionId} {s : List Char} {c : Command}
    (h : readParts id s = .ok c) :
    c.Selects (taken s).selector ∧
      ∃ verb rowId, c = { (taken s).unselected id with verb, rowId } := by
  rw [readParts_eq] at h
  match hselector : (taken s).selector with
  | none =>
    rw [hselector] at h
    cases h
    exact ⟨⟨rfl, rfl⟩, none, none, rfl⟩
  | some (.row digits) =>
    rw [hselector] at h
    cases h
    exact ⟨⟨rfl, rfl⟩, none, _, rfl⟩
  | some (.verb name) =>
    rw [hselector] at h
    dsimp only at h
    rcases hverb : Verb.ofName (.ofList name) with e | verb
    · rw [hverb] at h
      cases h
    · rw [hverb] at h
      cases h
      exact ⟨⟨rfl, verb, rfl, mem_spellings_of_ofName hverb⟩, _, none, rfl⟩

/-! ## The whole text -/

theorem parse_eq_of_connects {text : String} {id : ConnectionId}
    (h : Connects (Text.trim text.toList) (cut (Text.trim text.toList)) id) :
    parse text = readParts id
      (optionalPart (connectionPart? (Text.trim text.toList)) (Text.trim text.toList)).2 := by
  rw [parse, h.readConnection_eq]

/-- **The reader fails in three cases, and in no other.** -/
theorem parse_eq_error_iff (text : String) (e : Error) :
    parse text = .error e ↔ Fails (Text.trim text.toList) (cut (Text.trim text.toList)) e := by
  constructor
  · intro h
    rcases hconnection : readConnection (Text.trim text.toList) with e' | ⟨id, rest⟩
    · rw [parse, hconnection] at h
      cases h
      exact fails_of_readConnection hconnection
    · obtain ⟨hconnects, -⟩ := connects_of_readConnection hconnection
      rw [parse_eq_of_connects hconnects] at h
      obtain ⟨name, hselector, hname, rfl⟩ := readParts_eq_error_iff.mp h
      exact .verb hconnects (congrArg (sourceOf Selector.source) hselector) hname
  · rintro (⟨hopen, hnone⟩ | ⟨hdigits, htext, hlarge⟩ | ⟨hconnects, hselector, hname⟩)
    · rw [parse, readConnection_brackets hopen hnone]
    · rw [parse, htext, readConnection_number _ hdigits hlarge]
    · rw [parse_eq_of_connects hconnects]
      exact readParts_eq_error_iff.mpr ⟨_, source_injective hselector, hname, rfl⟩

/-- **A command that was read is what the pieces denote.** -/
theorem denotes_of_parse {text : String} {c : Command} (h : parse text = .ok c) :
    Denotes (Text.trim text.toList) (cut (Text.trim text.toList)) c := by
  rcases hconnection : readConnection (Text.trim text.toList) with e | ⟨id, rest⟩
  · rw [parse, hconnection] at h
    cases h
  · obtain ⟨hconnects, -⟩ := connects_of_readConnection hconnection
    rw [parse_eq_of_connects hconnects] at h
    obtain ⟨hselects, verb, rowId, rfl⟩ := selects_of_readParts h
    exact ⟨hconnects, rfl, ⟨_, rfl, rfl⟩, ⟨_, rfl, hselects⟩, ⟨_, rfl, rfl⟩, rfl⟩

/-- A message that names a position in the text. -/
def IsParseErrorAt (position : Nat) (e : Error) : Prop :=
  ∃ reason, e.message = "Parse error at position " ++ toString position ++ ": " ++ reason

theorem isParseErrorAt_brackets : IsParseErrorAt 0 .connectionSyntax :=
  ⟨"Connection id must be digits: '[1]'", by decide +kernel⟩

theorem isParseErrorAt_number (digits : String) : IsParseErrorAt 1 (.connectionRange digits) := by
  have htext : "Parse error at position 1: Connection id '" =
      "Parse error at position " ++ toString 1 ++ ": " ++ "Connection id '" := by
    decide +kernel
  refine ⟨"Connection id '" ++ digits ++ "' out of range", ?_⟩
  change "Parse error at position 1: Connection id '" ++ digits ++ "' out of range" = _
  simp only [htext, String.append_assoc]

/-- **The reader accepts exactly its grammar, and loses no text.**  The trimmed text has one cut
into pieces that are each the longest in their place, and a rest.  Reading it fails for the reasons
that `Fails` lists and for no other — at position 0 for its brackets, at position 1 for the number
in them — and where there is none, it gives the command that the pieces denote. -/
theorem parse_accepts_grammar (text : String) :
    ∃ p, IsCut p (Text.trim text.toList) ∧ (∀ q, IsCut q (Text.trim text.toList) → q = p) ∧
      (∀ e, parse text = .error e ↔ Fails (Text.trim text.toList) p e) ∧
      ((∀ e, ¬Fails (Text.trim text.toList) p e) →
        ∃ c, parse text = .ok c ∧ Denotes (Text.trim text.toList) p c) ∧
      IsParseErrorAt 0 .connectionSyntax ∧
      ∀ digits, IsParseErrorAt 1 (.connectionRange digits) := by
  have hcut := isCut_cut (Text.trim text.toList)
  refine ⟨_, hcut, fun q => hcut.unique, parse_eq_error_iff text, fun hfine => ?_, ?_, ?_⟩
  · rcases hparse : parse text with e | c
    · exact absurd ((parse_eq_error_iff text e).mp hparse) (hfine e)
    · exact ⟨c, rfl, denotes_of_parse hparse⟩
  · exact isParseErrorAt_brackets
  · exact isParseErrorAt_number

/-- A list that is not closed, and all after it, is left to the clause. -/
example : parse "users(id, x:add/first"
    = .ok { table := "users", clause := "(id, x:add/first" } := by cbv

end SqlShorthand.Command
