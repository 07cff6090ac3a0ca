import SqlShorthand.Proofs.Text

/-!
# Proofs/Condition — the condition of a WHERE clause, read with SQL precedence

A clause is text.  What it asks of a row is said here in three steps:

* `tokens?` cuts the text into words, quoted texts, symbols and parentheses;
* `nest?` matches the parentheses, so that the text becomes a list of trees (`read?` does both);
* `disjuncts` splits the trees at each OR outside parentheses, `conjuncts` a disjunct at each AND,
  and what is left is a comparison or a parenthesised condition (`IsCondition`).

`Holds` is the truth of a condition in that reading: OR binds weakest (`holds_iff_disjunct`), then
AND (`holds_and`), and parentheses only group (`holds_group`).  The truth of a single comparison is
a parameter.
-/

namespace SqlShorthand.Condition

/-! ## Tokens -/

/-- The words that shape a clause. -/
inductive Keyword where
  /-- AND -/
  | conj
  /-- OR -/
  | disj
  /-- WHERE -/
  | filter
  deriving Repr, DecidableEq

/-- The keyword that a word is, in any ASCII case. -/
def keyword? (w : List Char) : Option Keyword :=
  if w.map Char.toLower = ['a', 'n', 'd'] then some .conj
  else if w.map Char.toLower = ['o', 'r'] then some .disj
  else if w.map Char.toLower = ['w', 'h', 'e', 'r', 'e'] then some .filter
  else none

/-- A keyword, a parenthesis, or any other piece: a word, a quoted text or a symbol. -/
inductive Token where
  | keyword (k : Keyword)
  | piece (text : List Char)
  | opens
  | closes
  deriving Repr, DecidableEq

/-- The three quotes of SQL. -/
inductive Quote where
  | single
  | double
  | back
  deriving Repr, DecidableEq

/-- The character that opens and closes quotes. -/
def Quote.char : Quote → Char
  | .single => '\''
  | .double => '"'
  | .back => '\x60'

/-- The quotes that a character opens. -/
def quote? (c : Char) : Option Quote :=
  [Quote.single, .double, .back].find? (·.char == c)

/-- A character of a word: a name character, `$`, or anything beyond ASCII that is not blank. -/
def isWordChar (c : Char) : Bool :=
  Text.isNameChar c || c == '$' || (decide (128 ≤ c.toNat) && !Text.isBlank c)

/-- The token of a word, if there is a word. -/
def wordToken (w : List Char) : List Token :=
  if w = [] then []
  else match keyword? w with
    | some k => [.keyword k]
    | none => [.piece w]

/-- The token of a character that stands by itself. -/
def symbol (c : Char) : Token :=
  if c = '(' then .opens else if c = ')' then .closes else .piece [c]

/-- Where the reading of a text stands. -/
inductive Mode where
  /-- Outside quotes, with the word read so far. -/
  | word (w : List Char)
  /-- Inside quotes, with the quoted text so far. -/
  | quoted (q : Quote) (text : List Char)
  /-- Inside quotes, after a backslash. -/
  | escaped (q : Quote) (text : List Char)
  deriving Repr, DecidableEq

/-- One character: where the reading goes, and the tokens that end there. -/
def step : Mode → Char → Mode × List Token
  | .word w, c =>
    if isWordChar c then (.word (w ++ [c]), [])
    else if Text.isBlank c then (.word [], wordToken w)
    else match quote? c with
      | some q => (.quoted q [c], wordToken w)
      | none => (.word [], wordToken w ++ [symbol c])
  | .quoted q text, c =>
    if c = '\\' then (.escaped q (text ++ [c]), [])
    else if c = q.char then (.word [], [.piece (text ++ [c])])
    else (.quoted q (text ++ [c]), [])
  | .escaped q text, c => (.quoted q (text ++ [c]), [])

/-- A whole text: where its reading ends, and the tokens before that. -/
def scan (m : Mode) : List Char → Mode × List Token
  | [] => (m, [])
  | c :: s => ((scan (step m c).1 s).1, (step m c).2 ++ (scan (step m c).1 s).2)

/-- The tokens of a text whose quotes are all closed. -/
def tokens? (s : List Char) : Option (List Token) :=
  match scan (.word []) s with
  | (.word w, ts) => some (ts ++ wordToken w)
  | _ => none

/-! ## Trees -/

/-- A token, or what stands between matching parentheses. -/
inductive Tree where
  | keyword (k : Keyword)
  | piece (text : List Char)
  | group (inner : List Tree)
  deriving Repr

/-- One token, with the parentheses that are open: the innermost is on top. -/
def nestStep : List (List Tree) → Token → Option (List (List Tree))
  | stack, .opens => some ([] :: stack)
  | top :: below :: stack, .closes => some ((below ++ [.group top]) :: stack)
  | top :: stack, .keyword k => some ((top ++ [.keyword k]) :: stack)
  | top :: stack, .piece text => some ((top ++ [.piece text]) :: stack)
  | _, _ => none

/-- The trees of tokens whose parentheses match. -/
def nest? (ts : List Token) : Option (List Tree) :=
  match ts.foldlM nestStep [[]] with
  | some [trees] => some trees
  | _ => none

/-- The trees of a text. -/
def read? (s : List Char) : Option (List Tree) := (tokens? s).bind nest?

/-! ## Conditions -/

/-- The keyword `k` itself, outside parentheses. -/
def Tree.is (k : Keyword) : Tree → Bool
  | .keyword k' => k' == k
  | _ => false

/-- The parts of a condition between the ORs outside parentheses. -/
def disjuncts (ts : List Tree) : List (List Tree) := ts.splitOnP (Tree.is .disj)

/-- The parts of a disjunct between the ANDs outside parentheses. -/
def conjuncts (ts : List Tree) : List (List Tree) := ts.splitOnP (Tree.is .conj)

/-- One comparison: some text without a keyword outside parentheses, and more than a
parenthesised condition. -/
structure IsComparison (ts : List Tree) : Prop where
  ne_nil : ts ≠ []
  plain : ∀ t ∈ ts, ∀ k, t.is k = false
  ne_group : ∀ inner, ts ≠ [.group inner]

mutual

/-- A condition built from comparisons with AND, OR and parentheses. -/
inductive IsCondition : List Tree → Prop
  | intro {ts : List Tree} (h : ∀ d ∈ disjuncts ts, ∀ o ∈ conjuncts d, IsOperand o) :
      IsCondition ts

/-- What AND joins. -/
inductive IsOperand : List Tree → Prop
  | comparison {ts : List Tree} (h : IsComparison ts) : IsOperand ts
  | group {ts : List Tree} (h : IsCondition ts) : IsOperand [.group ts]

end

mutual

/-- A condition holds when all operands of one of its disjuncts do; `truth` says which comparisons
are true. -/
inductive Holds (truth : List Tree → Prop) : List Tree → Prop
  | intro {ts d : List Tree} (hd : d ∈ disjuncts ts)
      (h : ∀ o ∈ conjuncts d, OperandHolds truth o) : Holds truth ts

/-- An operand holds when its comparison is true, or the condition in its parentheses holds. -/
inductive OperandHolds (truth : List Tree → Prop) : List Tree → Prop
  | comparison {ts : List Tree} (h : IsComparison ts) (ht : truth ts) : OperandHolds truth ts
  | group {ts : List Tree} (h : Holds truth ts) : OperandHolds truth [.group ts]

end

/-! ## SQL precedence -/

variable {truth : List Tree → Prop} {ts us : List Tree}

/-- What a condition without an OR outside parentheses asks. -/
theorem holds_of_no_or (h : ∀ t ∈ ts, t.is .disj = false) :
    Holds truth ts ↔ ∀ o ∈ conjuncts ts, OperandHolds truth o := by
  have hd : disjuncts ts = [ts] := List.splitOnP_eq_singleton h
  constructor
  · rintro ⟨hmem, ho⟩
    rw [hd, List.mem_singleton] at hmem
    rwa [hmem] at ho
  · intro ho
    have hmem : ts ∈ disjuncts ts := by
      rw [hd]
      exact List.mem_singleton_self ts
    exact .intro hmem ho

/-- **OR binds weakest**: a condition holds when one of its disjuncts does. -/
theorem holds_iff_disjunct : Holds truth ts ↔ ∃ d ∈ disjuncts ts, Holds truth d := by
  constructor
  · rintro ⟨hd, ho⟩
    exact ⟨_, hd, (holds_of_no_or fun _ ht => (Text.mem_splitOnP hd ht).2).mpr ho⟩
  · rintro ⟨d, hd, h⟩
    exact .intro hd ((holds_of_no_or fun _ ht => (Text.mem_splitOnP hd ht).2).mp h)

/-- **AND binds tighter**: without an OR on either side, both sides must hold. -/
theorem holds_and (hts : ∀ t ∈ ts, t.is .disj = false) (hus : ∀ t ∈ us, t.is .disj = false) :
    Holds truth (ts ++ .keyword .conj :: us) ↔ Holds truth ts ∧ Holds truth us := by
  have hfree : ∀ t ∈ ts ++ .keyword .conj :: us, t.is .disj = false := by
    intro t ht
    rcases List.mem_append.mp ht with ht | ht
    · exact hts t ht
    · rcases List.mem_cons.mp ht with rfl | ht
      · rfl
      · exact hus t ht
  have hsplit : conjuncts (ts ++ .keyword .conj :: us) = conjuncts ts ++ conjuncts us :=
    List.splitOnP_append_cons ts us rfl
  rw [holds_of_no_or hfree, holds_of_no_or hts, holds_of_no_or hus, hsplit]
  simp only [List.mem_append, or_imp, forall_and]

theorem IsComparison.conjuncts_eq (h : IsComparison ts) : conjuncts ts = [ts] :=
  List.splitOnP_eq_singleton fun t ht => h.plain t ht .conj

theorem holds_comparison (h : IsComparison ts) : Holds truth ts ↔ truth ts := by
  rw [holds_of_no_or fun t ht => h.plain t ht .disj, h.conjuncts_eq]
  constructor
  · intro ho
    cases ho ts (List.mem_singleton_self ts) with
    | comparison _ ht => exact ht
    | group _ => exact absurd rfl (h.ne_group _)
  · intro ht o ho
    rw [List.mem_singleton.mp ho]
    exact .comparison h ht

/-- **Parentheses change nothing by themselves.** -/
theorem holds_group : Holds truth [.group ts] ↔ Holds truth ts := by
  have hfree : ∀ t ∈ [Tree.group ts], t.is .disj = false := by simp [Tree.is]
  have hsplit : conjuncts [Tree.group ts] = [[.group ts]] :=
    List.splitOnP_eq_singleton (by simp [Tree.is])
  rw [holds_of_no_or hfree, hsplit]
  constructor
  · intro ho
    cases ho _ (List.mem_singleton_self _) with
    | comparison h _ => exact absurd rfl (h.ne_group ts)
    | group h => exact h
  · intro h o ho
    rw [List.mem_singleton.mp ho]
    exact .group h

/-! ## Building conditions -/

theorem isCondition_comparison (h : IsComparison ts) : IsCondition ts := by
  have hfree : disjuncts ts = [ts] := List.splitOnP_eq_singleton fun t ht => h.plain t ht .disj
  refine .intro fun d hd o ho => ?_
  rw [hfree, List.mem_singleton] at hd
  rw [hd, h.conjuncts_eq, List.mem_singleton] at ho
  rw [ho]
  exact .comparison h

theorem isCondition_ne_nil (h : IsCondition ts) : ts ≠ [] := by
  rintro rfl
  obtain ⟨h⟩ := h
  cases h [] (List.mem_singleton_self []) [] (List.mem_singleton_self []) with
  | comparison hcmp => exact hcmp.ne_nil rfl

theorem isCondition_group (h : IsCondition ts) : IsCondition [.group ts] := by
  refine .intro fun d hd o ho => ?_
  rw [disjuncts, List.splitOnP_eq_singleton (by simp [Tree.is]), List.mem_singleton] at hd
  rw [hd, conjuncts, List.splitOnP_eq_singleton (by simp [Tree.is]), List.mem_singleton] at ho
  rw [ho]
  exact .group h

theorem isCondition_or (hts : IsCondition ts) (hus : IsCondition us) :
    IsCondition (ts ++ .keyword .disj :: us) := by
  obtain ⟨hts⟩ := hts
  obtain ⟨hus⟩ := hus
  refine .intro fun d hd => ?_
  rw [disjuncts, List.splitOnP_append_cons ts us rfl] at hd
  rcases List.mem_append.mp hd with hd | hd
  · exact hts d hd
  · exact hus d hd

/-! ## Reading in parts

A word ends at a blank, and at a blank outside quotes nothing is pending: the text on either side
can be read by itself. -/

theorem isWordChar_of_isBlank {c : Char} (h : Text.isBlank c = true) : isWordChar c = false := by
  have hname : Text.isNameChar c = false := by
    by_contra hc
    rw [Bool.not_eq_false] at hc
    rw [Text.isBlank_of_isNameChar hc] at h
    exact Bool.noConfusion h
  have hdollar : (c == '$') = false := by
    rw [beq_eq_false_iff_ne]
    rintro rfl
    exact absurd h (by decide)
  rw [isWordChar, hname, hdollar, h]
  simp

theorem step_word_of_isBlank {c : Char} (w : List Char) (h : Text.isBlank c = true) :
    step (.word w) c = (.word [], wordToken w) := by
  simp [step, isWordChar_of_isBlank h, h]

/-- A character that ends a word does the same whatever the word was. -/
theorem step_word {c : Char} (w : List Char) (h : isWordChar c = false) :
    step (.word w) c = ((step (.word []) c).1, wordToken w ++ (step (.word []) c).2) := by
  simp only [step, h, Bool.false_eq_true, if_false]
  split
  · simp [wordToken]
  · split <;> simp [wordToken]

theorem scan_append (m : Mode) (s t : List Char) :
    scan m (s ++ t) =
      ((scan (scan m s).1 t).1, (scan m s).2 ++ (scan (scan m s).1 t).2) := by
  induction s generalizing m with
  | nil => rfl
  | cons c s ih => rw [List.cons_append, scan, ih, scan, List.append_assoc]

/-- Word characters only add to the word. -/
theorem scan_run (w : List Char) {s : List Char} (h : ∀ c ∈ s, isWordChar c = true) :
    scan (.word w) s = (.word (w ++ s), []) := by
  induction s generalizing w with
  | nil => rw [scan, List.append_nil]
  | cons c s ih =>
    have hc : step (.word w) c = (.word (w ++ [c]), []) := by
      simp [step, h c List.mem_cons_self]
    rw [scan, hc, ih (w ++ [c]) fun x hx => h x (List.mem_cons_of_mem c hx), List.append_assoc]
    rfl

theorem tokens?_eq_some {s : List Char} {ts : List Token} :
    tokens? s = some ts ↔
      ∃ w us, scan (.word []) s = (.word w, us) ∧ ts = us ++ wordToken w := by
  rw [tokens?]
  split
  · rename_i w us hs
    rw [hs]
    constructor
    · intro h
      exact ⟨w, us, rfl, (Option.some.inj h).symm⟩
    · rintro ⟨w', us', heq, rfl⟩
      obtain ⟨hw, rfl⟩ := Prod.mk.inj heq
      rw [Mode.word.inj hw]
  · rename_i hne
    constructor
    · exact nofun
    · rintro ⟨w, us, hs, -⟩
      exact absurd hs (hne w us)

/-- **A text read as far as a blank is read whole**, and the rest is read from the start. -/
theorem tokens?_append_cons {s t : List Char} {c : Char} {ts : List Token}
    (hs : tokens? s = some ts) (hc : Text.isBlank c = true) :
    tokens? (s ++ c :: t) = (tokens? t).map (ts ++ ·) := by
  obtain ⟨w, us, hscan, rfl⟩ := tokens?_eq_some.mp hs
  have hcons : scan (.word []) (s ++ c :: t) =
      ((scan (.word []) t).1, us ++ wordToken w ++ (scan (.word []) t).2) := by
    rw [scan_append, hscan, scan, step_word_of_isBlank w hc, List.append_assoc]
  rw [tokens?, tokens?, hcons]
  rcases scan (.word []) t with ⟨m, vs⟩
  cases m <;> simp

theorem tokens?_cons_of_isBlank {c : Char} (s : List Char) (hc : Text.isBlank c = true) :
    tokens? (c :: s) = tokens? s := by
  have hnil : tokens? [] = some [] := rfl
  simpa using tokens?_append_cons (t := s) hnil hc

/-- No quotes close at a blank. -/
theorem tokens?_concat_of_isBlank {c : Char} (s : List Char) (hc : Text.isBlank c = true) :
    tokens? (s ++ [c]) = tokens? s := by
  rw [tokens?, tokens?, scan_append]
  rcases scan (.word []) s with ⟨m, ts⟩
  cases m with
  | word w => simp [scan, step_word_of_isBlank w hc, wordToken]
  | quoted q text =>
    have hq : c ≠ q.char := by
      rintro rfl
      cases q <;> exact absurd hc (by decide)
    by_cases hb : c = '\\' <;> simp [scan, step, hb, hq]
  | escaped q text => rfl

/-- A word before something that is no word character. -/
theorem tokens?_word_append {w s : List Char} (hw : ∀ c ∈ w, isWordChar c = true)
    (hs : ∀ c ∈ s.head?, isWordChar c = false) :
    tokens? (w ++ s) = (tokens? s).map (wordToken w ++ ·) := by
  rw [tokens?, tokens?, scan_append, scan_run [] hw, List.nil_append, List.nil_append]
  cases s with
  | nil => simp [scan, wordToken]
  | cons c s =>
    rw [scan, scan, step_word w (hs c rfl)]
    rcases scan (step (.word []) c).1 s with ⟨m, ts⟩
    cases m <;> simp

/-! ## Matching parentheses in parts -/

/-- The stack with more trees at its bottom. -/
def onto (trees : List Tree) : List (List Tree) → List (List Tree)
  | [] => []
  | [bottom] => [trees ++ bottom]
  | top :: stack => top :: onto trees stack

theorem nestStep_onto (trees top : List Tree) (stack : List (List Tree)) (t : Token) :
    nestStep (onto trees (top :: stack)) t = (nestStep (top :: stack) t).map (onto trees) := by
  cases t with
  | opens => cases stack <;> rfl
  | closes =>
    cases stack with
    | nil => rfl
    | cons below stack =>
      cases stack with
      | nil => simp [onto, nestStep]
      | cons _ _ => rfl
  | keyword k => cases stack <;> simp [onto, nestStep]
  | piece text => cases stack <;> simp [onto, nestStep]

/-- A step never empties the stack. -/
theorem nestStep_ne_nil {top : List Tree} {stack stack' : List (List Tree)} {t : Token}
    (h : nestStep (top :: stack) t = some stack') : stack' ≠ [] := by
  rintro rfl
  cases t <;> cases stack <;> simp [nestStep] at h

theorem foldlM_nestStep_onto (trees top : List Tree) (stack : List (List Tree))
    (ts : List Token) :
    ts.foldlM nestStep (onto trees (top :: stack)) =
      (ts.foldlM nestStep (top :: stack)).map (onto trees) := by
  induction ts generalizing top stack with
  | nil => rfl
  | cons t ts ih =>
    rw [List.foldlM_cons, List.foldlM_cons, nestStep_onto]
    cases h : nestStep (top :: stack) t with
    | none => rfl
    | some stack' =>
      obtain ⟨top', stack', rfl⟩ := List.exists_cons_of_ne_nil (nestStep_ne_nil h)
      exact ih top' stack'

theorem nest?_eq_some {ts : List Token} {trees : List Tree} :
    nest? ts = some trees ↔ ts.foldlM nestStep [[]] = some [trees] := by
  rw [nest?]
  split
  · rename_i us hs
    simp [hs]
  · rename_i hne
    constructor
    · exact nofun
    · intro h
      exact absurd h (hne trees)

/-- **Trees stand side by side**: what follows matched parentheses is matched by itself. -/
theorem nest?_append {ts us : List Token} {trees : List Tree} (h : nest? ts = some trees) :
    nest? (ts ++ us) = (nest? us).map (trees ++ ·) := by
  have hstack : [trees] = onto trees [[]] := by rw [onto, List.append_nil]
  rw [nest?, nest?, List.foldlM_append, nest?_eq_some.mp h]
  simp only [Option.bind_eq_bind, Option.bind_some]
  rw [hstack, foldlM_nestStep_onto]
  cases us.foldlM nestStep [[]] with
  | none => rfl
  | some stack =>
    match stack with
    | [] => rfl
    | [bottom] => rfl
    | _ :: [_] => rfl
    | _ :: _ :: _ :: _ => rfl

/-! ## Reading a text -/

/-- **Texts with a blank between them are read one after the other.** -/
theorem read?_append_cons {s t : List Char} {c : Char} {trees : List Tree}
    (hs : read? s = some trees) (hc : Text.isBlank c = true) :
    read? (s ++ c :: t) = (read? t).map (trees ++ ·) := by
  obtain ⟨ts, hts, hnest⟩ := Option.bind_eq_some_iff.mp hs
  rw [read?, read?, tokens?_append_cons hts hc]
  cases tokens? t with
  | none => rfl
  | some us => exact nest?_append hnest

theorem read?_cons_of_isBlank {c : Char} (s : List Char) (hc : Text.isBlank c = true) :
    read? (c :: s) = read? s := by
  rw [read?, read?, tokens?_cons_of_isBlank s hc]

theorem read?_trimStart (s : List Char) : read? (Text.trimStart s) = read? s := by
  induction s with
  | nil => rfl
  | cons c s ih =>
    cases hc : Text.isBlank c with
    | false => rw [Text.trimStart_cons s hc]
    | true =>
      rw [read?_cons_of_isBlank s hc, ← ih, Text.trimStart, List.dropWhile_cons_of_pos hc]
      rfl

theorem read?_trimEnd (s : List Char) : read? (Text.trimEnd s) = read? s := by
  induction s using List.reverseRecOn with
  | nil => rfl
  | append_singleton s c ih =>
    cases hc : Text.isBlank c with
    | false => rw [Text.trimEnd_append_singleton s hc]
    | true =>
      have htrim : Text.trimEnd (s ++ [c]) = Text.trimEnd s := by
        rw [Text.trimEnd, Text.trimEnd, List.reverse_concat, List.dropWhile_cons_of_pos hc]
      rw [htrim, ih, read?, read?, tokens?_concat_of_isBlank s hc]

theorem read?_trim (s : List Char) : read? (Text.trim s) = read? s := by
  rw [Text.trim, read?_trimEnd, read?_trimStart]

/-- A word before something that is no word character. -/
theorem read?_word_append {w s : List Char} {t : Token} {tree : Tree}
    (htoken : wordToken w = [t]) (htree : nest? [t] = some [tree])
    (hw : ∀ c ∈ w, isWordChar c = true) (hs : ∀ c ∈ s.head?, isWordChar c = false) :
    read? (w ++ s) = (read? s).map (tree :: ·) := by
  rw [read?, read?, tokens?_word_append hw hs, htoken]
  cases tokens? s with
  | none => rfl
  | some us => exact nest?_append htree

/-- A symbol stands by itself, whatever follows it. -/
theorem read?_symbol_cons {c : Char} (s : List Char) (hword : isWordChar c = false)
    (hblank : Text.isBlank c = false) (hquote : quote? c = none)
    (hsymbol : symbol c = .piece [c]) : read? (c :: s) = (read? s).map (.piece [c] :: ·) := by
  have hstep : step (.word []) c = (.word [], [.piece [c]]) := by
    simp [step, hword, hblank, hquote, hsymbol, wordToken]
  have htokens : tokens? (c :: s) = (tokens? s).map ([.piece [c]] ++ ·) := by
    rw [tokens?, tokens?, scan, hstep]
    rcases scan (.word []) s with ⟨m, ts⟩
    cases m <;> simp
  have htree : nest? [.piece [c]] = some [.piece [c]] := rfl
  rw [read?, read?, htokens]
  cases tokens? s with
  | none => rfl
  | some us => exact nest?_append htree

theorem wordToken_of_keyword {w : List Char} {k : Keyword} (hk : keyword? w = some k) :
    wordToken w = [.keyword k] := by
  have hne : w ≠ [] := by
    rintro rfl
    exact absurd hk nofun
  rw [wordToken, if_neg hne, hk]

theorem wordToken_of_piece {w : List Char} (hne : w ≠ []) (hk : keyword? w = none) :
    wordToken w = [.piece w] := by
  rw [wordToken, if_neg hne, hk]

/-! ## Clauses -/

/-- A clause that is WHERE, in any case, and one condition. -/
def IsWhere (clause : List Char) (ts : List Tree) : Prop :=
  ∃ word body, clause = word ++ body ∧ keyword? word = some .filter ∧
    (∀ c ∈ body.head?, isWordChar c = false) ∧ read? body = some ts ∧ IsCondition ts

theorem keyword?_filter {w : List Char} :
    keyword? w = some .filter ↔ w.map Char.toLower = ['w', 'h', 'e', 'r', 'e'] := by
  rw [keyword?]
  split_ifs with h₁ h₂ h₃
  · simp [h₁]
  · simp [h₂]
  · simp [h₃]
  · simp [h₃]

theorem isAlpha_of_keyword {w : List Char} (hk : keyword? w = some .filter) :
    ∀ c ∈ w, c.isAlpha = true := by
  intro c hc
  have hmem : c.toLower ∈ ['w', 'h', 'e', 'r', 'e'] := by
    rw [← keyword?_filter.mp hk]
    exact List.mem_map_of_mem hc
  have hlower : ['w', 'h', 'e', 'r', 'e'].all Char.isAlpha = true := by decide
  -- a capital is a letter as it stands, and any other character is its own lower case
  by_cases hupper : c.val ≥ 'A'.val ∧ c.val ≤ 'Z'.val
  · have h : c.isUpper = true := by simpa [Char.isUpper] using hupper
    rw [Char.isAlpha, h, Bool.true_or]
  · rw [Char.toLower, dif_neg hupper] at hmem
    exact List.all_eq_true.mp hlower c hmem

/-- The letters of a keyword make up one word. -/
theorem isNameChar_of_keyword {w : List Char} (hk : keyword? w = some .filter) :
    ∀ c ∈ w, Text.isNameChar c = true := by
  intro c hc
  simp [Text.isNameChar, Char.isAlphanum, isAlpha_of_keyword hk c hc]

theorem length_of_keyword {w : List Char} (hk : keyword? w = some .filter) : w.length = 5 := by
  have h := congrArg List.length (keyword?_filter.mp hk)
  rwa [List.length_map] at h

/-- The condition of a clause is what its first five letters leave. -/
theorem isWhere_append {w s : List Char} {c : Char}
    (hk : keyword? w = some .filter) (hc : isWordChar c = false) :
    IsWhere (w ++ c :: s) ts ↔ read? (c :: s) = some ts ∧ IsCondition ts := by
  constructor
  · rintro ⟨v, body, heq, hv, -, hread, hcond⟩
    have hlength : w.length = v.length := (length_of_keyword hk).trans (length_of_keyword hv).symm
    obtain ⟨-, rfl⟩ := List.append_inj heq hlength
    exact ⟨hread, hcond⟩
  · rintro ⟨hread, hcond⟩
    refine ⟨w, c :: s, rfl, hk, fun a ha => ?_, hread, hcond⟩
    rwa [← Option.some.inj ha]

end SqlShorthand.Condition
