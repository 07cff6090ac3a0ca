import SqlShorthand.Literal
import SqlShorthand.Proofs.Placeholder

/-!
# Proofs/Literal — a quoted value is lossless and inert

A literal is written by one table (`Literal.escape`) and met by the machine of another reader
(`Placeholder.step`).  `escape_cases` says all there is to say about the table: a character is
written as a known escape, or stands for itself and is neither quote nor backslash.  Two readings
follow:

* `unescape?_flatMap_escape` — undoing the escapes gives the value back, so `quote` is injective;
* `quotedBody_flatMap_escape` — the machine stays inside the quotes to their end, so each character
  of the literal is a piece of its own (`pieces_append_quoted`) and what stands before and after it
  is read as if it stood alone.
-/

namespace SqlShorthand

namespace Literal

/-! ## Undoing the escapes -/

/-- The character that an escape stands for. -/
def unescapeChar? : Char → Option Char
  | '\'' => some '\''
  | '\\' => some '\\'
  | '0' => some '\x00'
  | 'n' => some '\n'
  | 'r' => some '\r'
  | 'Z' => some '\x1a'
  | _ => none

/-- The value between the quotes of a literal.  There is none if a quote would end the literal
before, or a backslash starts no known escape. -/
def unescape? : List Char → Option (List Char)
  | [] => some []
  | '\\' :: c :: rest => (unescapeChar? c).bind fun d => (unescape? rest).map (d :: ·)
  | c :: rest => if c = '\'' ∨ c = '\\' then none else (unescape? rest).map (c :: ·)

theorem unescape?_escape {c d : Char} (h : unescapeChar? c = some d) (rest : List Char) :
    unescape? ('\\' :: c :: rest) = (unescape? rest).map (d :: ·) := by
  rw [unescape?, h, Option.bind_some]

theorem unescape?_cons {c : Char} (hquote : c ≠ '\'') (hslash : c ≠ '\\') (rest : List Char) :
    unescape? (c :: rest) = (unescape? rest).map (c :: ·) := by
  rw [unescape?.eq_3 _ _ (by simp [hslash]), if_neg (by simp [hquote, hslash])]

/-- **What a character is written as**: an escape that stands for it, or itself. -/
theorem escape_cases (c : Char) :
    (∃ e, unescapeChar? e = some c ∧ escape c = ['\\', e]) ∨
      c ≠ '\'' ∧ c ≠ '\\' ∧ escape c = [c] := by
  have hcode : ∀ d : Char, c.toNat = d.toNat → c = d := fun d => Char.toNat_inj.mp
  simp only [escape, beq_iff_eq]
  split_ifs with hquote hslash hnul hline hreturn hsub
  · exact .inl ⟨'\'', by rw [hquote]; rfl, rfl⟩
  · exact .inl ⟨'\\', by rw [hslash]; rfl, rfl⟩
  · exact .inl ⟨'0', by rw [hcode '\x00' hnul]; rfl, rfl⟩
  · exact .inl ⟨'n', by rw [hline]; rfl, rfl⟩
  · exact .inl ⟨'r', by rw [hreturn]; rfl, rfl⟩
  · exact .inl ⟨'Z', by rw [hcode '\x1a' hsub]; rfl, rfl⟩
  · exact .inr ⟨hquote, hslash, rfl⟩

/-- **Undoing the escapes gives the value back.** -/
theorem unescape?_flatMap_escape : ∀ s : List Char, unescape? (s.flatMap escape) = some s
  | [] => rfl
  | c :: s => by
    have ih := unescape?_flatMap_escape s
    rw [List.flatMap_cons]
    obtain ⟨e, he, hescape⟩ | ⟨hquote, hslash, hescape⟩ := escape_cases c
    · rw [hescape, List.cons_append, List.singleton_append, unescape?_escape he, ih,
        Option.map_some]
    · rw [hescape, List.singleton_append, unescape?_cons hquote hslash, ih, Option.map_some]

/-- **Nothing in the value ends the quotes.** -/
theorem quotedBody_flatMap_escape : ∀ s : List Char,
    Placeholder.QuotedBody '\'' (s.flatMap escape)
  | [] => .nil
  | c :: s => by
    have ih := quotedBody_flatMap_escape s
    rw [List.flatMap_cons]
    obtain ⟨e, -, hescape⟩ | ⟨hquote, hslash, hescape⟩ := escape_cases c
    · rw [hescape]
      exact .escape ih
    · rw [hescape]
      exact .char hquote hslash ih

end Literal

/-! ## A quoted text among other SQL

The machine looks ahead for names only, and no name runs on into a quote.  So the pieces before a
quoted text do not depend on it (`run_stop`), and after it the machine is where it starts out. -/

namespace Placeholder

variable {st : State} {q c : Char} {s body rest : List Char} {r : Record}

theorem namesHere_append_stop (s : List Char)
    (hstop : ∀ c ∈ rest.head?, Text.isNameChar c = false) :
    namesHere (s ++ rest) = namesHere s := by
  match s, rest with
  | _ :: _, _ => rfl
  | [], [] => rfl
  | [], c :: rest =>
    refine Bool.eq_false_iff.mpr fun hstart => ?_
    have hname := isNameChar_of_isNameStart hstart
    rw [hstop c rfl] at hname
    exact Bool.noConfusion hname

/-- A step does not see beyond what ends a name. -/
theorem step_stop (st : State) (c : Char) (s : List Char)
    (hstop : ∀ c ∈ rest.head?, Text.isNameChar c = false) :
    step st c (s ++ rest) = step st c s := by
  have houtside (afterColon : Bool) :
      stepOutside afterColon c (s ++ rest) = stepOutside afterColon c s := by
    simp only [stepOutside, namesHere_append_stop s hstop, Text.takeWhile_append_stop s hstop]
  cases st with
  | outside afterColon => exact houtside afterColon
  | naming => simp only [step, houtside]
  | quoted | escaped => rfl

/-- **A run does not see beyond what ends a name.** -/
theorem run_stop (st : State) (s : List Char)
    (hstop : ∀ c ∈ rest.head?, Text.isNameChar c = false) : run st s rest = run st s [] := by
  induction s generalizing st with
  | nil => rfl
  | cons c s ih => rw [run, run, step_stop st c s hstop, List.append_nil, ih]

theorem run_nil_fst (st : State) (s : List Char) : (run st s []).1 = piecesFrom st s := by
  have h := piecesFrom_append st s []
  rwa [List.append_nil, piecesFrom, List.append_nil, eq_comm] at h

theorem step_quote_fst (rest : List Char) (hst : st.isOutside = true) (hq : isQuote q = true) :
    (step st q rest).1 = [.char q] := by
  match st with
  | .outside _ => rw [step, stepOutside, if_pos hq]
  | .naming => rw [step, if_neg (by simp [not_isNameChar_of_isQuote hq]), stepOutside, if_pos hq]

/-- Inside quotes, each character is a piece of its own. -/
theorem run_quotedBody_fst (rest : List Char) (h : QuotedBody q body) :
    (run (.quoted q) body rest).1 = body.map .char := by
  induction h with
  | nil => rfl
  | char hq hslash _ ih => simpa [run, step, hq, hslash] using ih
  | escape _ ih => simpa [run, step] using ih

/-- **A quoted text is its characters**, and leaves the machine where it started out. -/
theorem piecesFrom_quoted (hst : st.isOutside = true) (hq : isQuote q = true)
    (hbody : QuotedBody q body) (s : List Char) :
    piecesFrom st (q :: (body ++ q :: s)) = (q :: (body ++ [q])).map .char ++ pieces s := by
  have hend : (step (.quoted q) q s).1 = [.char q] := rfl
  rw [piecesFrom, step_quote_fst _ hst hq, step_quote _ hst hq, piecesFrom_append,
    run_quotedBody_fst _ hbody, run_quotedBody _ hbody, piecesFrom, hend, step_endQuote _ hq]
  simp [pieces]

/-- **A quoted text between two others**: all three are read as if they stood alone. -/
theorem pieces_append_quoted (p s : List Char)
    (hp : (run (.outside false) p []).2.isOutside = true) (hq : isQuote q = true)
    (hbody : QuotedBody q body) :
    pieces (p ++ q :: (body ++ q :: s)) =
      pieces p ++ ((q :: (body ++ [q])).map .char ++ pieces s) := by
  have hstop : ∀ c ∈ (q :: (body ++ q :: s)).head?, Text.isNameChar c = false := by
    simpa using not_isNameChar_of_isQuote hq
  rw [pieces, piecesFrom_append, run_stop _ p hstop, run_nil_fst,
    piecesFrom_quoted hp hq hbody]
  rfl

/-! ## Filling piece by piece -/

theorem fill_chars (r : Record) : ∀ s : List Char, fill r (s.map .char) = .ok (s, [])
  | [] => rfl
  | c :: s => by rw [List.map_cons, fill, fill_chars r s]

theorem fill_append {ps qs : List Piece} {out out' : List Char} {values values' : List Value}
    (hps : fill r ps = .ok (out, values)) (hqs : fill r qs = .ok (out', values')) :
    fill r (ps ++ qs) = .ok (out ++ out', values ++ values') := by
  fun_induction fill r ps generalizing out values with
  | case1 => cases hps; exact hqs
  | case2 c rest tail vals hrest ih =>
    cases hps
    simp [fill, ih hrest]
  | case3 => cases hps
  | case4 => cases hps
  | case5 name rest v hv tail vals hrest ih =>
    cases hps
    simp [fill, hv, ih hrest]
  | case6 => cases hps

/-- Binding to a record succeeds where its values may be bound and every name has one. -/
theorem bind_named_eq_ok {sql out : String} {values : List Value} :
    bind sql (.named r) = .ok (out, values) ↔
      (Params.named r).ensureBindable = .ok () ∧
        fill r (pieces sql.toList) = .ok (out.toList, values) := by
  rw [bind]
  rcases (Params.named r).ensureBindable with e | _
  · simp
  · rcases fill r (pieces sql.toList) with e | ⟨out', values'⟩
    · simp
    · simp [← String.toList_inj]

end Placeholder

/-! ## Every value -/

namespace Literal

/-- An optional minus sign and at least one digit. -/
def IsWholeNumber (v : String) : Prop :=
  ∃ sign digits, v.toList = sign ++ digits ∧ (sign = [] ∨ sign = ['-']) ∧ digits ≠ [] ∧
    ∀ c ∈ digits, c.isDigit = true

/-- The machine that looks for placeholders stands outside quotes at the end of the text. -/
def EndsOutside (sql : String) : Prop :=
  (Placeholder.run (.outside false) sql.toList []).2.isOutside = true

theorem isWhole_iff (v : String) : isWhole v.toList = true ↔ IsWholeNumber v := by
  have hall (digits : List Char) : (!digits.isEmpty && digits.all Char.isDigit) = true ↔
      digits ≠ [] ∧ ∀ c ∈ digits, c.isDigit = true := by simp
  rw [IsWholeNumber]
  generalize v.toList = s
  constructor
  · intro h
    rw [isWhole.eq_def] at h
    split at h
    · exact ⟨['-'], _, rfl, .inr rfl, (hall _).mp h⟩
    · exact ⟨[], s, rfl, .inl rfl, (hall s).mp h⟩
  · rintro ⟨sign, digits, rfl, rfl | rfl, hdigits⟩
    · have hminus : ∀ rest, digits ≠ '-' :: rest := by
        rintro rest rfl
        exact absurd (hdigits.2 '-' List.mem_cons_self) (by decide)
      rw [List.nil_append, isWhole.eq_2 _ hminus]
      exact (hall digits).mpr hdigits
    · exact (hall digits).mpr hdigits

theorem quote_of_isWholeNumber {v : String} (h : IsWholeNumber v) : quote v = v := by
  rw [quote, quoteChars, if_pos ((isWhole_iff v).mpr h), String.ofList_toList]

/-- Any other value stands between quotes. -/
theorem toList_quote {v : String} (h : ¬IsWholeNumber v) :
    (quote v).toList = '\'' :: (v.toList.flatMap escape ++ ['\'']) := by
  rw [quote, quoteChars, if_neg (mt (isWhole_iff v).mp h), String.toList_ofList, List.cons_append]

/-- **A value is written losslessly and without effect on the SQL around it.** -/
structure IsInert (v : String) : Prop where
  /-- It stands between quotes, and undoing the escapes gives it back. -/
  lossless : ∃ body, (quote v).toList = '\'' :: (body ++ ['\'']) ∧ unescape? body = some v.toList
  /-- What stands before and after it is bound as if it stood alone. -/
  inert : ∀ (r : Record) (before after out out' : String) (values values' : List Value),
    EndsOutside before →
    Placeholder.bind before (.named r) = .ok (out, values) →
    Placeholder.bind after (.named r) = .ok (out', values') →
    Placeholder.bind (before ++ quote v ++ after) (.named r) =
      .ok (out ++ quote v ++ out', values ++ values')

theorem isInert {v : String} (h : ¬IsWholeNumber v) : IsInert v := by
  refine ⟨⟨_, toList_quote h, unescape?_flatMap_escape _⟩, ?_⟩
  intro r before after out out' values values' hend hbefore hafter
  rw [Placeholder.bind_named_eq_ok] at hbefore hafter ⊢
  refine ⟨hbefore.1, ?_⟩
  have hpieces : Placeholder.pieces (before ++ quote v ++ after).toList =
      Placeholder.pieces before.toList ++
        ((quote v).toList.map .char ++ Placeholder.pieces after.toList) := by
    rw [String.toList_append, String.toList_append, toList_quote h]
    simpa using Placeholder.pieces_append_quoted before.toList after.toList hend (by decide)
      (quotedBody_flatMap_escape v.toList)
  have hrest := Placeholder.fill_append (Placeholder.fill_chars r (quote v).toList) hafter.2
  rw [hpieces, Placeholder.fill_append hbefore.2 hrest]
  simp

/-- **No two values are written alike.** -/
theorem quote_inj {v w : String} (h : quote v = quote w) : v = w := by
  -- A whole number starts with no quote, and two quoted values are read back from their text.
  have hbare {v w : String} (hv : IsWholeNumber v) (hw : ¬IsWholeNumber w) : quote v ≠ quote w := by
    intro h
    rw [quote_of_isWholeNumber hv] at h
    obtain ⟨sign, digits, hlist, hsign, hne, hdigits⟩ := hv
    obtain ⟨d, ds, rfl⟩ := List.exists_cons_of_ne_nil hne
    rw [h, toList_quote hw] at hlist
    obtain rfl | rfl := hsign
    · rw [← (List.cons.inj hlist).1] at hdigits
      exact absurd (hdigits '\'' List.mem_cons_self) (by decide)
    · exact absurd (List.cons.inj hlist).1 (by decide)
  by_cases hv : IsWholeNumber v <;> by_cases hw : IsWholeNumber w
  · rwa [quote_of_isWholeNumber hv, quote_of_isWholeNumber hw] at h
  · exact absurd h (hbare hv hw)
  · exact absurd h.symm (hbare hw hv)
  · have hbody := congrArg String.toList h
    rw [toList_quote hv, toList_quote hw] at hbody
    have hread := congrArg unescape? (List.append_cancel_right (List.cons.inj hbody).2)
    rw [unescape?_flatMap_escape, unescape?_flatMap_escape] at hread
    exact String.toList_inj.mp (Option.some.inj hread)

/-- **Literals are lossless and inert.**  A whole number stands bare; any other value stands between
quotes from which undoing the escapes gives it back, and however it is spliced into SQL outside
quotes, nothing in it ends the literal, is bound, or changes how the SQL around it is read.  No two
values are written alike. -/
theorem quote_lossless_inert :
    (∀ v, IsWholeNumber v → quote v = v) ∧ (∀ v, ¬IsWholeNumber v → IsInert v) ∧
      Function.Injective quote :=
  ⟨fun _ => quote_of_isWholeNumber, fun _ => isInert, fun _ _ => quote_inj⟩

/-- A value with a quote, a placeholder and a backslash at its end, between two placeholders. -/
theorem quote_lossless_inert_hostile :
    let r : Record := ⟨[("a", .int 1), ("c", .int 2)]⟩
    let v := "' OR :a=\\"
    quote v = "'\\' OR :a=\\\\'" ∧ ¬IsWholeNumber v ∧ EndsOutside "x=:a AND y=" ∧
      Placeholder.bind ("x=:a AND y=" ++ quote v ++ " OR z=:c") (.named r) =
        .ok ("x=? AND y=" ++ quote v ++ " OR z=?", [.int 1, .int 2]) := by
  intro r v
  have hwhole : ¬IsWholeNumber v := by
    rw [← isWhole_iff]
    decide
  have hend : EndsOutside "x=:a AND y=" := by
    rw [EndsOutside]
    rfl
  exact ⟨by cbv, hwhole, hend,
    (quote_lossless_inert.2.1 v hwhole).inert r _ _ _ _ _ _ hend rfl rfl⟩

end Literal

end SqlShorthand
