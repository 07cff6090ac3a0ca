import SqlShorthand.Placeholder
import SqlShorthand.Proofs.Text

/-!
# Proofs/Placeholder — binding is substitution at the placeholders

What a placeholder is can be said without a machine: the text before it has all its quotes closed
(`Closed`) and does not end in a colon, and its name is the longest word after the colon
(`IsPlaceholder`).  The machine of `Placeholder` reads that off one character at a time:

* `source_run` — nothing is lost: the pieces read so far are the text read so far, with the rest of
  a name that has begun;
* `isOutside_run` — the machine stands outside quotes exactly when the text before is closed.

Together they make the named pieces the placeholders (`isPlaceholder_iff`), and `bind` fills them
in order or fails at the first name that the record lacks.
-/

namespace SqlShorthand.Placeholder

/-! ## What a placeholder is -/

/-- The inside of a text quoted by `q`: a backslash takes the next character with it, and no other
`q` stands there. -/
inductive QuotedBody (q : Char) : List Char → Prop
  | nil : QuotedBody q []
  | char {c : Char} {s : List Char} (hq : c ≠ q) (hslash : c ≠ '\\') (hs : QuotedBody q s) :
      QuotedBody q (c :: s)
  | escape {c : Char} {s : List Char} (hs : QuotedBody q s) : QuotedBody q ('\\' :: c :: s)

/-- A text with all its quotes closed. -/
inductive Closed : List Char → Prop
  | nil : Closed []
  | char {c : Char} {s : List Char} (hc : isQuote c = false) (hs : Closed s) : Closed (c :: s)
  | quoted {q : Char} {body s : List Char} (hq : isQuote q = true) (hbody : QuotedBody q body)
      (hs : Closed s) : Closed (q :: (body ++ q :: s))

/-- Between `before` and `after`, a colon and `name` are a placeholder. -/
structure IsPlaceholder (before name after : List Char) : Prop where
  closed : Closed before
  apart : before.getLast? ≠ some ':'
  starts : namesHere name = true
  word : ∀ c ∈ name, Text.isNameChar c = true
  stops : ∀ c ∈ after.head?, Text.isNameChar c = false

/-- The SQL that a piece was read from. -/
def Piece.source : Piece → List Char
  | .char c => [c]
  | .named name => ':' :: name

/-- The SQL that is sent for a piece. -/
def Piece.marked : Piece → List Char
  | .char c => [c]
  | .named _ => ['?']

def Piece.name? : Piece → Option String
  | .char _ => none
  | .named name => some (.ofList name)

/-- The SQL that pieces were read from. -/
def source (ps : List Piece) : List Char := ps.flatMap Piece.source

/-- The pieces with `?` for each placeholder. -/
def marked (ps : List Piece) : List Char := ps.flatMap Piece.marked

/-- The names of the placeholders, in order. -/
def names (ps : List Piece) : List String := ps.filterMap Piece.name?

/-! ## The machine on a part of the text

`step` looks ahead, so a part of a text is read together with what follows it. -/

/-- The pieces of `s`, and where the reading then stands, when `rest` follows. -/
def run (st : State) : List Char → List Char → List Piece × State
  | [], _ => ([], st)
  | c :: s, rest =>
    ((step st c (s ++ rest)).1 ++ (run (step st c (s ++ rest)).2 s rest).1,
      (run (step st c (s ++ rest)).2 s rest).2)

theorem piecesFrom_append (st : State) (s rest : List Char) :
    piecesFrom st (s ++ rest) = (run st s rest).1 ++ piecesFrom (run st s rest).2 rest := by
  induction s generalizing st with
  | nil => rfl
  | cons c s ih =>
    rw [List.cons_append, piecesFrom, ih, run, List.append_assoc]

theorem run_append (st : State) (s t rest : List Char) :
    (run st (s ++ t) rest).2 = (run (run st s (t ++ rest)).2 t rest).2 := by
  induction s generalizing st with
  | nil => rfl
  | cons c s ih => rw [List.cons_append, run, run, ih, List.append_assoc]

/-! ## Nothing is lost -/

/-- What has been given out ahead of the reading: the rest of a name. -/
def pending : State → List Char → List Char
  | .naming, rest => rest.takeWhile Text.isNameChar
  | _, _ => []

theorem source_append (ps qs : List Piece) : source (ps ++ qs) = source ps ++ source qs :=
  List.flatMap_append

/-- Outside quotes, one character is accounted for at once. -/
theorem source_stepOutside (afterColon : Bool) (c : Char) (rest : List Char) :
    source (stepOutside afterColon c rest).1 =
      c :: pending (stepOutside afterColon c rest).2 rest := by
  rw [stepOutside]
  split
  · rfl
  split
  · rename_i h
    simp only [Bool.and_eq_true, beq_iff_eq] at h
    rw [h.1.1]
    simp [source, Piece.source, pending]
  · rfl

/-- **One step accounts for one character.** -/
theorem source_step (st : State) (c : Char) (rest : List Char) :
    pending st (c :: rest) ++ source (step st c rest).1 =
      c :: pending (step st c rest).2 rest := by
  cases st with
  | outside afterColon => exact source_stepOutside afterColon c rest
  | quoted q =>
    rw [step]
    split_ifs <;> rfl
  | escaped q => rfl
  | naming =>
    cases hc : Text.isNameChar c with
    | true =>
      rw [step, if_pos hc, pending, List.takeWhile_cons_of_pos hc]
      simp [source, pending]
    | false =>
      rw [step, if_neg (by simp [hc]), pending, List.takeWhile_cons_of_neg (by simp [hc])]
      exact source_stepOutside false c rest

/-- **A run accounts for the text it has read**, and for the rest of a name. -/
theorem source_run (st : State) (s rest : List Char) :
    pending st (s ++ rest) ++ source (run st s rest).1 = s ++ pending (run st s rest).2 rest := by
  induction s generalizing st with
  | nil => simp [run, source]
  | cons c s ih =>
    rw [run, source_append, List.cons_append, ← List.append_assoc, source_step, List.cons_append,
      ih, List.cons_append]

/-! ## Inside and outside quotes -/

/-- The machine is not inside quotes. -/
def State.isOutside : State → Bool
  | .outside _ => true
  | .naming => true
  | _ => false

variable {st : State} {q c : Char} {s body rest : List Char}

theorem not_isNameChar_of_isQuote (h : isQuote c = true) : Text.isNameChar c = false := by
  simp only [isQuote, Bool.or_eq_true, beq_iff_eq] at h
  rcases h with (rfl | rfl) | rfl <;> decide

theorem isOutside_stepOutside (afterColon : Bool) (rest : List Char) (hc : isQuote c = false) :
    (stepOutside afterColon c rest).2.isOutside = true := by
  rw [stepOutside, if_neg (by simp [hc])]
  split <;> rfl

theorem isOutside_step (rest : List Char) (hst : st.isOutside = true) (hc : isQuote c = false) :
    (step st c rest).2.isOutside = true := by
  cases st with
  | outside afterColon => exact isOutside_stepOutside afterColon rest hc
  | naming =>
    rw [step]
    split
    · rfl
    · exact isOutside_stepOutside false rest hc
  | quoted q => exact Bool.noConfusion hst
  | escaped q => exact Bool.noConfusion hst

theorem step_quote (rest : List Char) (hst : st.isOutside = true) (hq : isQuote q = true) :
    (step st q rest).2 = .quoted q := by
  cases st with
  | outside afterColon => rw [step, stepOutside, if_pos hq]
  | naming => rw [step, if_neg (by simp [not_isNameChar_of_isQuote hq]), stepOutside, if_pos hq]
  | quoted q => exact Bool.noConfusion hst
  | escaped q => exact Bool.noConfusion hst

/-- Quotes stay open through the text that they quote. -/
theorem run_quotedBody (rest : List Char) (h : QuotedBody q body) :
    (run (.quoted q) body rest).2 = .quoted q := by
  induction h with
  | nil => rfl
  | char hq hslash _ ih => simpa [run, step, hq, hslash] using ih
  | escape _ ih => simpa [run, step] using ih

theorem step_endQuote (rest : List Char) (hq : isQuote q = true) :
    (step (.quoted q) q rest).2 = .outside false := by
  have hslash : q ≠ '\\' := by
    rintro rfl
    exact absurd hq (by decide)
  simp [step, hslash]

/-- A closed text leads from outside quotes to outside quotes. -/
theorem isOutside_run_of_closed (rest : List Char) (h : Closed s) (hst : st.isOutside = true) :
    (run st s rest).2.isOutside = true := by
  induction h generalizing st with
  | nil => exact hst
  | char hc _ ih => exact ih (isOutside_step _ hst hc)
  | quoted hq hbody _ ih =>
    rw [run, step_quote _ hst hq, run_append, run_quotedBody _ hbody, run, step_endQuote _ hq]
    exact ih rfl

/-- What is left to read before the machine is outside quotes, and from there on. -/
def Closes : State → List Char → Prop
  | .quoted q, s => ∃ body t, s = body ++ q :: t ∧ QuotedBody q body ∧ Closed t
  | .escaped q, s => ∃ c body t, s = c :: (body ++ q :: t) ∧ QuotedBody q body ∧ Closed t
  | _, s => Closed s

theorem closed_cons_of_stepOutside {afterColon : Bool}
    (h : Closes (stepOutside afterColon c (s ++ rest)).2 s) : Closed (c :: s) := by
  rw [stepOutside] at h
  split at h
  · rename_i hq
    obtain ⟨body, t, rfl, hbody, ht⟩ := h
    exact .quoted hq hbody ht
  · rename_i hq
    rw [Bool.not_eq_true] at hq
    split at h
    · exact .char hq h
    · exact .char hq h

/-- …and only a closed text does. -/
theorem closes_of_isOutside_run (h : (run st s rest).2.isOutside = true) : Closes st s := by
  induction s generalizing st with
  | nil =>
    cases st with
    | outside _ => exact .nil
    | naming => exact .nil
    | quoted _ => exact Bool.noConfusion h
    | escaped _ => exact Bool.noConfusion h
  | cons c s ih =>
    have hs := ih h
    cases st with
    | outside afterColon => exact closed_cons_of_stepOutside hs
    | naming =>
      rw [step] at hs
      split at hs
      · rename_i hname
        refine .char ?_ hs
        by_contra hq
        rw [Bool.not_eq_false] at hq
        rw [not_isNameChar_of_isQuote hq] at hname
        exact Bool.noConfusion hname
      · exact closed_cons_of_stepOutside hs
    | quoted q =>
      simp only [step, beq_iff_eq] at hs
      split_ifs at hs with hslash hq
      · obtain ⟨b, body, t, rfl, hbody, ht⟩ := hs
        exact ⟨'\\' :: b :: body, t, by rw [hslash]; rfl, .escape hbody, ht⟩
      · exact ⟨[], s, by rw [hq]; rfl, .nil, hs⟩
      · obtain ⟨body, t, rfl, hbody, ht⟩ := hs
        exact ⟨c :: body, t, rfl, .char hq hslash hbody, ht⟩
    | escaped q =>
      obtain ⟨body, t, rfl, hbody, ht⟩ := hs
      exact ⟨c, body, t, rfl, hbody, ht⟩

/-- **The machine stands outside quotes exactly after a closed text.** -/
theorem isOutside_run (s rest : List Char) :
    (run (.outside false) s rest).2.isOutside = true ↔ Closed s := by
  constructor
  · intro h
    exact closes_of_isOutside_run h
  · intro h
    exact isOutside_run_of_closed rest h rfl

/-! ## After a colon -/

/-- What a state says of the text read before it, when `rest` follows. -/
def Stands : State → List Char → List Char → Prop
  | .outside afterColon, before, _ => afterColon = true ↔ before.getLast? = some ':'
  | .naming, before, rest => before.getLast? = some ':' → namesHere rest = true
  | .quoted q, _, _ => isQuote q = true
  | .escaped q, _, _ => isQuote q = true

theorem stands_stepOutside (afterColon : Bool) (c : Char) (before rest : List Char) :
    Stands (stepOutside afterColon c rest).2 (before ++ [c]) rest := by
  rw [stepOutside]
  split
  · assumption
  split
  · rename_i h
    rw [Bool.and_eq_true] at h
    exact fun _ => h.2
  · simp [Stands]

theorem stands_step {before : List Char} (h : Stands st before (c :: rest)) :
    Stands (step st c rest).2 (before ++ [c]) rest := by
  cases st with
  | outside afterColon => exact stands_stepOutside afterColon c before rest
  | naming =>
    rw [step]
    split
    · rename_i hname
      intro hcolon
      rw [List.getLast?_concat, Option.some.injEq] at hcolon
      rw [hcolon] at hname
      exact absurd hname (by decide)
    · exact stands_stepOutside false c before rest
  | quoted q =>
    simp only [step, beq_iff_eq]
    split_ifs with hslash hq
    · exact h
    · have hcolon : c ≠ ':' := by
        rintro rfl
        rw [Stands, ← hq] at h
        exact absurd h (by decide)
      simp [Stands, hcolon]
    · exact h
  | escaped q => exact h

theorem stands_run {before : List Char} (h : Stands st before (s ++ rest)) :
    Stands (run st s rest).2 (before ++ s) rest := by
  induction s generalizing st before with
  | nil => simpa [run] using h
  | cons c s ih =>
    have hs := ih (stands_step h)
    rwa [List.append_assoc] at hs

/-- The states in which a colon can start a placeholder. -/
def State.isReady (st : State) : Bool := st == .outside false || st == .naming

theorem step_colon (st : State) (rest : List Char) :
    (step st ':' rest).1 =
      if st.isReady && namesHere rest then [.named (rest.takeWhile Text.isNameChar)]
      else [.char ':'] := by
  have hcolon : isQuote ':' = false := by decide
  have hname : Text.isNameChar ':' = false := by decide
  cases st with
  | outside afterColon =>
    cases afterColon <;> cases hrest : namesHere rest <;>
      simp [step, stepOutside, hcolon, hrest, State.isReady]
  | naming =>
    cases hrest : namesHere rest <;>
      simp [step, stepOutside, hcolon, hname, hrest, State.isReady]
  | quoted q => rfl
  | escaped q => rfl

/-- Before a colon, the machine is ready when it is outside quotes and not after a colon. -/
theorem isReady_iff {before : List Char} (h : Stands st before (':' :: rest)) :
    st.isReady = true ↔ st.isOutside = true ∧ before.getLast? ≠ some ':' := by
  cases st with
  | outside afterColon =>
    have hlast : before.getLast? ≠ some ':' ↔ afterColon = false := by
      rw [Ne, ← Bool.not_eq_true]
      exact not_congr (Iff.symm h)
    rw [hlast]
    cases afterColon <;> decide
  | naming =>
    have hlast : before.getLast? ≠ some ':' := by
      intro hlast
      have hstart : namesHere (':' :: rest) = false := rfl
      rw [h hlast] at hstart
      exact Bool.noConfusion hstart
    exact iff_of_true rfl ⟨rfl, hlast⟩
  | quoted q => exact iff_of_false nofun fun hout => Bool.noConfusion hout.1
  | escaped q => exact iff_of_false nofun fun hout => Bool.noConfusion hout.1

/-! ## The named pieces are the placeholders -/

theorem source_eq_nil {ps : List Piece} (h : source ps = []) : ps = [] := by
  cases ps with
  | nil => rfl
  | cons p ps => cases p <;> simp [source, Piece.source] at h

/-- Every piece comes from some text, so a text cuts its pieces in one way. -/
theorem append_inj_source {ps qs xs ys : List Piece} (h : ps ++ xs = qs ++ ys)
    (hsource : source ps = source qs) : ps = qs := by
  induction ps generalizing qs with
  | nil => exact (source_eq_nil hsource.symm).symm
  | cons p ps ih =>
    cases qs with
    | nil => exact source_eq_nil hsource
    | cons q qs =>
      obtain ⟨rfl, htail⟩ := List.cons.inj h
      have hrest : source ps = source qs := by
        rw [source, source, List.flatMap_cons, List.flatMap_cons] at hsource
        exact List.append_cancel_left hsource
      rw [ih htail hrest]

theorem pending_colon (st : State) (rest : List Char) : pending st (':' :: rest) = [] := by
  cases st <;> rfl

/-- The pieces up to a colon are read from the text up to that colon. -/
theorem source_run_colon (before rest : List Char) :
    source (run (.outside false) before (':' :: rest)).1 = before := by
  have h := source_run (.outside false) before (':' :: rest)
  rwa [pending_colon, List.append_nil] at h

/-- The machine is ready before a colon exactly after a closed text that ends in no colon. -/
theorem isReady_run (before rest : List Char) :
    (run (.outside false) before (':' :: rest)).2.isReady = true ↔
      Closed before ∧ before.getLast? ≠ some ':' := by
  have hstart : Stands (.outside false) [] (before ++ ':' :: rest) := by simp [Stands]
  rw [isReady_iff (stands_run hstart), isOutside_run, List.nil_append]

theorem isNameChar_of_isNameStart (h : Text.isNameStart c = true) : Text.isNameChar c = true := by
  simp only [Text.isNameStart, Text.isNameChar, Char.isAlphanum, Bool.or_eq_true] at h ⊢
  exact h.imp_left Or.inl

theorem namesHere_append {name : List Char} (after : List Char) (h : namesHere name = true) :
    namesHere (name ++ after) = true := by
  cases name with
  | nil => exact Bool.noConfusion h
  | cons c name => exact h

/-- The longest word of a text that starts a name starts that name. -/
theorem namesHere_of_append {name after : List Char} (h : namesHere (name ++ after) = true)
    (hstops : ∀ c ∈ after.head?, Text.isNameChar c = false) : namesHere name = true := by
  cases name with
  | cons c name => exact h
  | nil =>
    cases after with
    | nil => exact h
    | cons c after =>
      have hc := isNameChar_of_isNameStart h
      rw [hstops c rfl] at hc
      exact Bool.noConfusion hc

/-- **The named pieces are the placeholders**, each with the text before it. -/
theorem isPlaceholder_iff (before name after : List Char) :
    IsPlaceholder before name after ↔
      ∃ as bs, pieces (before ++ ':' :: (name ++ after)) = as ++ .named name :: bs ∧
        source as = before := by
  have hsplit := piecesFrom_append (.outside false) before (':' :: (name ++ after))
  have hready := isReady_run before (name ++ after)
  have hsource := source_run_colon before (name ++ after)
  generalize run (.outside false) before (':' :: (name ++ after)) = r at hsplit hready hsource
  rw [piecesFrom, step_colon] at hsplit
  constructor
  · intro h
    rw [hready.mpr ⟨h.closed, h.apart⟩, namesHere_append after h.starts,
      Text.takeWhile_run h.word h.stops] at hsplit
    exact ⟨r.1, _, hsplit, hsource⟩
  · rintro ⟨as, bs, hpieces, has⟩
    rw [pieces, hsplit] at hpieces
    obtain rfl := append_inj_source hpieces (hsource.trans has.symm)
    have htail := List.append_cancel_left hpieces
    split at htail
    · rename_i hstep
      rw [Bool.and_eq_true] at hstep
      obtain ⟨hname, -⟩ := List.cons.inj htail
      obtain ⟨hclosed, hapart⟩ := hready.mp hstep.1
      obtain ⟨hword, hstops⟩ := Text.run_of_takeWhile (Piece.named.inj hname)
      exact ⟨hclosed, hapart, namesHere_of_append hstep.2 hstops, hword, hstops⟩
    · exact Piece.noConfusion (List.cons.inj htail).1

/-! ## Filling the placeholders -/

variable {r : Record}

/-- With a value for every name, the values come in the order of the names. -/
theorem fill_of_forall {ps : List Piece} (h : ∀ n ∈ names ps, r.get? n ≠ none) :
    ∃ values, fill r ps = .ok (marked ps, values) ∧ values.map some = (names ps).map r.get? := by
  induction ps with
  | nil => exact ⟨[], rfl, rfl⟩
  | cons p ps ih =>
    cases p with
    | char c =>
      obtain ⟨values, hfill, hvalues⟩ := ih h
      refine ⟨values, ?_, hvalues⟩
      rw [fill, hfill]
      rfl
    | named name =>
      obtain ⟨hname, hrest⟩ := List.forall_mem_cons.mp h
      obtain ⟨v, hv⟩ := Option.ne_none_iff_exists'.mp hname
      obtain ⟨values, hfill, hvalues⟩ := ih hrest
      refine ⟨v :: values, ?_, ?_⟩
      · rw [fill, hv, hfill]
        rfl
      · rw [List.map_cons, hvalues, ← hv]
        rfl

/-- The first name without a value stops the filling. -/
theorem fill_of_find? {ps : List Piece} {n : String}
    (h : (names ps).find? (fun n => (r.get? n).isNone) = some n) :
    fill r ps = .error (.missingParam n) := by
  induction ps with
  | nil => exact absurd h nofun
  | cons p ps ih =>
    cases p with
    | char c => rw [fill, ih h]
    | named name =>
      have hnames : names (.named name :: ps) = .ofList name :: names ps := rfl
      rw [hnames, List.find?_cons] at h
      cases hv : r.get? (.ofList name) with
      | none =>
        rw [hv] at h
        rw [fill, hv, Option.some.inj h]
      | some v =>
        rw [hv] at h
        rw [fill, hv, ih h]

/-- Values that could be filled in are the named ones, in the order of the names. -/
theorem values_of_fill {ps : List Piece} {out : List Char}
    {values : List Value} (h : fill r ps = .ok (out, values)) :
    out = marked ps ∧ values.map some = (names ps).map r.get? := by
  cases hfind : (names ps).find? fun n => (r.get? n).isNone with
  | some n =>
    rw [fill_of_find? hfind] at h
    cases h
  | none =>
    have hall : ∀ n ∈ names ps, r.get? n ≠ none := by
      intro n hn hnone
      have hsome := List.find?_eq_none.mp hfind n hn
      rw [hnone] at hsome
      exact hsome rfl
    obtain ⟨values', hfill, hvalues⟩ := fill_of_forall hall
    rw [hfill] at h
    cases h
    exact ⟨rfl, hvalues⟩

theorem source_pieces (sql : List Char) : source (pieces sql) = sql := by
  have hrun := source_run (.outside false) sql []
  have hsplit := piecesFrom_append (.outside false) sql []
  have hnil : ∀ st, pending st [] = [] := by
    intro st
    cases st <;> rfl
  rw [hnil, List.append_nil] at hrun
  rw [List.append_nil, piecesFrom, List.append_nil] at hsplit
  rw [pieces, hsplit]
  exact hrun

theorem ensureBindable_named (h : ∀ f ∈ r.fields, f.2.isRaw = false) :
    (Params.named r).ensureBindable = .ok () := by
  refine Params.ensureBindable_of_forall fun v hv => ?_
  obtain ⟨f, hf, rfl⟩ := List.mem_map.mp hv
  exact h f hf

/-- The result of binding is substitution in the SQL, cut into `ps`. -/
structure IsSubstitution (sql : List Char) (r : Record) (ps : List Piece)
    (result : Except Error (String × List Value)) : Prop where
  /-- The pieces are the SQL. -/
  source_eq : source ps = sql
  /-- The named pieces are the placeholders. -/
  placeholder : ∀ before name after, sql = before ++ ':' :: (name ++ after) →
    (IsPlaceholder before name after ↔
      ∃ as bs, ps = as ++ .named name :: bs ∧ source as = before)
  /-- With a value for every name, `?` stands for each and the values come in order. -/
  filled : (∀ n ∈ names ps, r.get? n ≠ none) →
    ∃ values, result = .ok (.ofList (marked ps), values) ∧
      values.map some = (names ps).map r.get?
  /-- Otherwise the result is the first name without a value. -/
  missing : ∀ n, (names ps).find? (fun n => (r.get? n).isNone) = some n →
    result = .error (.missingParam n)

/-- **Binding is substitution at the placeholders**, for every SQL and every record without raw
fragments. -/
theorem exists_isSubstitution_bind (sql : String) (r : Record)
    (hraw : ∀ f ∈ r.fields, f.2.isRaw = false) :
    ∃ ps, IsSubstitution sql.toList r ps (bind sql (.named r)) := by
  refine ⟨pieces sql.toList, source_pieces sql.toList, ?_, ?_, ?_⟩
  · intro before name after hsql
    rw [hsql]
    exact isPlaceholder_iff before name after
  · intro h
    obtain ⟨values, hfill, hvalues⟩ := fill_of_forall h
    refine ⟨values, ?_, hvalues⟩
    simp only [bind, ensureBindable_named hraw, hfill]
  · intro n h
    simp only [bind, ensureBindable_named hraw, fill_of_find? h]

/-- A placeholder, and the same text in quotes. -/
theorem exists_isSubstitution_bind_quoted :
    (∃ ps, IsSubstitution "SELECT ':id' FROM t WHERE id=:id".toList ⟨[("id", .int 1)]⟩ ps
      (bind "SELECT ':id' FROM t WHERE id=:id" (.named ⟨[("id", .int 1)]⟩))) ∧
    bind "SELECT ':id' FROM t WHERE id=:id" (.named ⟨[("id", .int 1)]⟩) =
      .ok ("SELECT ':id' FROM t WHERE id=?", [.int 1]) := by
  refine ⟨exists_isSubstitution_bind _ _ ?_, rfl⟩
  intro f hf
  rw [List.mem_singleton.mp hf]
  rfl

end SqlShorthand.Placeholder
