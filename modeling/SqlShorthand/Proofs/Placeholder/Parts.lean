import SqlShorthand.Proofs.Literal

/-!
# Proofs/Placeholder/Parts — SQL that is bound part by part

A text without quotes and colons is sent as it is, whatever follows it (`pieces_append_unmarked`).
A placeholder is sent as `?` wherever its name ends (`bindsTo_named`).  So a statement that is put
together from such parts is bound part by part: `BindsTo` says of a part what is sent for it and
which values it takes, and carries over to parts in a row (`BindsTo.append`) and to a list of them
(`bindsTo_intercalate`).
-/

namespace SqlShorthand.Placeholder

variable {r : Record}

/-! ## Texts without marks -/

/-- A character that the reading of SQL heeds: a quote or a colon. -/
def isMark (c : Char) : Bool := isQuote c || c == ':'

/-- A text without quotes and colons. -/
def Unmarked (s : String) : Prop := ∀ c ∈ s.toList, isMark c = false

theorem unmarked_of_any {s : String} (h : s.toList.any isMark = false) : Unmarked s :=
  fun c hc => Bool.eq_false_iff.mpr (List.any_eq_false.mp h c hc)

theorem step_of_unmarked {c : Char} (rest : List Char) (hc : isMark c = false) :
    step (.outside false) c rest = ([.char c], .outside false) := by
  rw [isMark, Bool.or_eq_false_iff] at hc
  simp [step, stepOutside, hc.1, hc.2]

/-- **A text without marks is its characters**, whatever follows it. -/
theorem pieces_append_unmarked {s : List Char} (hs : ∀ c ∈ s, isMark c = false)
    (rest : List Char) : pieces (s ++ rest) = s.map .char ++ pieces rest := by
  induction s with
  | nil => rfl
  | cons c s ih =>
    obtain ⟨hc, hs⟩ := List.forall_mem_cons.mp hs
    rw [List.cons_append, pieces, piecesFrom, step_of_unmarked _ hc]
    exact congrArg (.char c :: ·) (ih hs)

/-! ## Parts of a statement -/

/-- The text is empty or starts with a character that ends a name. -/
def EndsName (s : List Char) : Prop := ∀ c ∈ s.head?, Text.isNameChar c = false

/-- **A part of SQL is bound by itself**, where no name runs on behind it: `sent` is sent for it,
and it takes these values. -/
def BindsTo (r : Record) (text sent : String) (values : List Value) : Prop :=
  ∀ rest, EndsName rest →
    ∃ ps, pieces (text.toList ++ rest) = ps ++ pieces rest ∧ fill r ps = .ok (sent.toList, values)

theorem bindsTo_unmarked {text : String} (h : Unmarked text) : BindsTo r text text [] :=
  fun rest _ => ⟨_, pieces_append_unmarked h rest, fill_chars r _⟩

/-- Behind a name the reading starts anew. -/
theorem piecesFrom_naming {name rest : List Char} (hname : ∀ c ∈ name, Text.isNameChar c = true)
    (hrest : EndsName rest) : piecesFrom .naming (name ++ rest) = pieces rest := by
  induction name with
  | nil =>
    cases rest with
    | nil => rfl
    | cons c rest =>
      have hc : Text.isNameChar c = false := hrest c rfl
      have hstep : step .naming c rest = step (.outside false) c rest := by simp [step, hc]
      rw [List.nil_append, pieces, piecesFrom, piecesFrom, hstep]
  | cons c name ih =>
    obtain ⟨hc, hname⟩ := List.forall_mem_cons.mp hname
    rw [List.cons_append, piecesFrom, step, if_pos hc]
    exact ih hname

/-- **A placeholder is bound to the value under its name.** -/
theorem bindsTo_named {name : String} {v : Value} (hstarts : namesHere name.toList = true)
    (hword : ∀ c ∈ name.toList, Text.isNameChar c = true) (hv : r.get? name = some v) :
    BindsTo r (":" ++ name) "?" [v] := by
  intro rest hrest
  refine ⟨[.named name.toList], ?_, ?_⟩
  · have hstep : step (.outside false) ':' (name.toList ++ rest)
        = ([.named name.toList], .naming) := by
      simp [step, stepOutside, isQuote, namesHere_append rest hstarts,
        Text.takeWhile_run hword hrest]
    have htext : (":" ++ name).toList ++ rest = ':' :: (name.toList ++ rest) := by
      simp [String.toList_append]
    rw [htext, pieces, piecesFrom, hstep, piecesFrom_naming hword hrest]
  · simp [fill, hv]

variable {text text' sent sent' : String} {values values' : List Value}

/-- A text without marks in front is sent as it is. -/
theorem BindsTo.unmarked_append (hplain : Unmarked text) (h : BindsTo r text' sent' values') :
    BindsTo r (text ++ text') (text ++ sent') values' := by
  intro rest hrest
  obtain ⟨ps, hps, hfill⟩ := h rest hrest
  refine ⟨text.toList.map .char ++ ps, ?_, ?_⟩
  · rw [String.toList_append, List.append_assoc, pieces_append_unmarked hplain, hps,
      List.append_assoc]
  · rw [fill_append (fill_chars r _) hfill, String.toList_append]
    rfl

/-- **Parts in a row**, where the second starts with what ends a name. -/
theorem BindsTo.append (h : BindsTo r text sent values) (h' : BindsTo r text' sent' values')
    (hne : text'.toList ≠ []) (hends : EndsName text'.toList) :
    BindsTo r (text ++ text') (sent ++ sent') (values ++ values') := by
  intro rest hrest
  obtain ⟨qs, hqs, hfill'⟩ := h' rest hrest
  have hrest' : EndsName (text'.toList ++ rest) := by
    intro c hc
    rw [List.head?_append_of_ne_nil _ hne] at hc
    exact hends c hc
  obtain ⟨ps, hps, hfill⟩ := h (text'.toList ++ rest) hrest'
  refine ⟨ps ++ qs, ?_, ?_⟩
  · rw [String.toList_append, List.append_assoc, hps, hqs, List.append_assoc]
  · rw [fill_append hfill hfill', String.toList_append]

/-- **A list of parts**, with commas between them. -/
theorem bindsTo_intercalate {α : Type} {text sent : α → String} {values : α → List Value}
    {xs : List α} (h : ∀ x ∈ xs, BindsTo r (text x) (sent x) (values x)) :
    BindsTo r (", ".intercalate (xs.map text)) (", ".intercalate (xs.map sent))
      (xs.flatMap values) := by
  induction xs with
  | nil => exact bindsTo_unmarked nofun
  | cons x xs ih =>
    obtain ⟨hx, hxs⟩ := List.forall_mem_cons.mp h
    cases xs with
    | nil => simpa using hx
    | cons y ys =>
      have hcomma : Unmarked ", " := unmarked_of_any (by decide)
      have hends (s : String) : EndsName (", " ++ s).toList := by
        intro c hc
        obtain rfl : ',' = c := by simpa using hc
        decide
      have hrow := hx.append ((ih hxs).unmarked_append hcomma) (by simp) (hends _)
      simpa [String.append_assoc] using hrow

/-! ## The whole statement -/

theorem marked_eq_source {ps : List Piece} (h : names ps = []) : marked ps = source ps := by
  induction ps with
  | nil => rfl
  | cons p ps ih =>
    cases p with
    | char c => exact congrArg (c :: ·) (ih h)
    | named name => cases h

/-- **Parts that make up the whole SQL are what is sent.**  Without values there is nothing to
bind, and the SQL has no placeholder. -/
theorem bind_ofRecord {sql : String} (hraw : ∀ f ∈ r.fields, f.2.isRaw = false)
    (h : BindsTo r sql sent values) : bind sql (.ofRecord r) = .ok (sent, values) := by
  obtain ⟨ps, hps, hfill⟩ := h [] nofun
  have hpieces : pieces sql.toList = ps := by simpa [pieces, piecesFrom] using hps
  rw [← hpieces] at hfill
  rw [Params.ofRecord]
  split
  · rename_i hempty
    obtain ⟨hsent, hvalues⟩ := values_of_fill hfill
    have hnone : ∀ n, r.get? n = none := by
      intro n
      rw [Record.get?, List.isEmpty_iff.mp hempty]
      rfl
    have hnames : names (pieces sql.toList) = [] := by
      cases hn : names (pieces sql.toList) with
      | nil => rfl
      | cons n ns =>
        rw [hn, List.map_cons, hnone] at hvalues
        cases values <;> cases hvalues
    rw [hnames, List.map_nil, List.map_eq_nil_iff] at hvalues
    rw [marked_eq_source hnames, source_pieces] at hsent
    rw [hvalues, String.toList_inj.mp hsent]
    rfl
  · exact bind_named_eq_ok.mpr ⟨ensureBindable_named hraw, hfill⟩

end SqlShorthand.Placeholder
