import SqlShorthand.Proofs.Literal

/-!
# Proofs/Placeholder/Settled — what binding leaves

Binding writes `?` for every placeholder and keeps all other characters.  Whether a colon starts a
placeholder depends on its neighbours, and these change; still the text that is sent

* has no placeholder left (`piecesFrom_marked`);
* is quoted where the SQL was, character for character (`regionsFrom_marked`);
* has one `?` more outside quotes for each value (`count_outsideFrom_marked`).

All three compare the reading of the sent text with that of the SQL, one character of the SQL at a
time.  The machine is in the same state in both, except in a name, where the sent text has nothing
and its reading stands after a `?` (`State.settled`).
-/

namespace SqlShorthand.Placeholder

/-! ## Quotes alone -/

/-- Where a reading stands that looks for quotes alone. -/
inductive Zone where
  | plain
  /-- Inside quotes that `q` ends. -/
  | quoted (q : Char)
  /-- Inside quotes, after a backslash. -/
  | escaped (q : Char)
  deriving Repr, DecidableEq

/-- Where it stands after a character. -/
def Zone.next : Zone → Char → Zone
  | .plain, c => if isQuote c then .quoted c else .plain
  | .quoted q, c => if c == '\\' then .escaped q else if c == q then .plain else .quoted q
  | .escaped q, _ => .quoted q

/-- Puts a character in front of the first region, or makes it one. -/
def growFirst (c : Char) : List (List Char) → List (List Char)
  | [] => [[c]]
  | region :: regions => (c :: region) :: regions

/-- The quoted regions of a text, from a zone on: inside quotes, the first is the rest of one. -/
def regionsFrom : Zone → List Char → List (List Char)
  | _, [] => []
  | zone, c :: s =>
    match zone, zone.next c with
    | .plain, .plain => regionsFrom .plain s
    | _, .plain => [c] :: regionsFrom .plain s
    | _, inside => growFirst c (regionsFrom inside s)

/-- **The quoted regions of a text**, each with its quotes; the last one may be open. -/
def quotedRegions (s : List Char) : List (List Char) := regionsFrom .plain s

/-- The characters of a text that are not quoted, from a zone on. -/
def outsideFrom : Zone → List Char → List Char
  | _, [] => []
  | zone, c :: s =>
    match zone, zone.next c with
    | .plain, .plain => c :: outsideFrom .plain s
    | _, next => outsideFrom next s

/-- **The characters of a text outside its quoted regions.** -/
def outsideQuotes (s : List Char) : List Char := outsideFrom .plain s

/-- From inside quotes, the rest of the region comes first. -/
theorem regionsFrom_quotedBody {q : Char} {body : List Char} (hq : isQuote q = true)
    (hbody : QuotedBody q body) (s : List Char) :
    regionsFrom (.quoted q) (body ++ q :: s) = (body ++ [q]) :: regionsFrom .plain s := by
  have hslash : q ≠ '\\' := by
    rintro rfl
    exact absurd hq (by decide)
  induction hbody with
  | nil => simp [regionsFrom, Zone.next, hslash]
  | char hne hplain _ ih => simp [regionsFrom, Zone.next, hne, hplain, ih, growFirst]
  | escape _ ih => simp [regionsFrom, Zone.next, ih, growFirst]

/-- **Quotes and the text that they enclose are one region.** -/
theorem quotedRegions_cons {q : Char} {body : List Char} (hq : isQuote q = true)
    (hbody : QuotedBody q body) (s : List Char) :
    quotedRegions (q :: (body ++ q :: s)) = (q :: (body ++ [q])) :: quotedRegions s := by
  simp [quotedRegions, regionsFrom, Zone.next, hq, regionsFrom_quotedBody hq hbody, growFirst]

example : quotedRegions "a = 'it\\'s' AND `b` = \"".toList
    = ["'it\\'s'".toList, "`b`".toList, "\"".toList] := by decide +kernel

variable {z : Zone} {c : Char} {s t : List Char}

/-- What follows a character counts only from where that character leads. -/
theorem regionsFrom_cons_congr (h : regionsFrom (z.next c) t = regionsFrom (z.next c) s) :
    regionsFrom z (c :: t) = regionsFrom z (c :: s) := by
  cases z <;> simp only [regionsFrom] <;> split <;> simp_all

theorem regionsFrom_cons_plain (s : List Char) (hc : isQuote c = false) :
    regionsFrom .plain (c :: s) = regionsFrom .plain s := by
  simp [regionsFrom, Zone.next, hc]

theorem outsideFrom_cons_plain (s : List Char) (hc : isQuote c = false) :
    outsideFrom .plain (c :: s) = c :: outsideFrom .plain s := by
  simp [outsideFrom, Zone.next, hc]

theorem count_outsideFrom_cons {x : Char} {n : Nat}
    (h : (outsideFrom (z.next c) t).count x = (outsideFrom (z.next c) s).count x + n) :
    (outsideFrom z (c :: t)).count x = (outsideFrom z (c :: s)).count x + n := by
  cases z with
  | plain =>
    simp only [outsideFrom]
    split
    · rename_i hnext
      rw [hnext] at h
      rw [List.count_cons, List.count_cons, h, Nat.add_right_comm]
    · exact h
  | quoted q => simpa only [outsideFrom] using h
  | escaped q => simpa only [outsideFrom] using h

/-! ## The machine keeps to the zones -/

/-- The zone of a state. -/
def State.zone : State → Zone
  | .outside _ => .plain
  | .naming => .plain
  | .quoted q => .quoted q
  | .escaped q => .escaped q

/-- **What one step gives**: the character itself, or — outside quotes — a placeholder for its
colon, or nothing for a character of a name. -/
inductive Gives (st : State) (c : Char) : List Piece × State → Prop where
  | char {next : State} (hzone : next.zone = st.zone.next c) : Gives st c ([.char c], next)
  | named {name : List Char} (hst : st.zone = .plain) (hc : c = ':') :
      Gives st c ([.named name], .naming)
  | nothing (hst : st.zone = .plain) (hc : Text.isNameChar c = true) : Gives st c ([], .naming)

theorem gives_stepOutside {st : State} (hst : st.zone = .plain) (afterColon : Bool) (c : Char)
    (rest : List Char) : Gives st c (stepOutside afterColon c rest) := by
  rw [stepOutside]
  split
  · rename_i hquote
    exact .char (by rw [hst, Zone.next, if_pos hquote]; rfl)
  · rename_i hquote
    split
    · rename_i hcolon
      simp only [Bool.and_eq_true, beq_iff_eq] at hcolon
      exact .named hst hcolon.1.1
    · exact .char (by rw [hst, Zone.next, if_neg hquote]; rfl)

theorem gives_step (st : State) (c : Char) (rest : List Char) : Gives st c (step st c rest) := by
  cases st with
  | outside afterColon => exact gives_stepOutside rfl afterColon c rest
  | quoted q =>
    refine .char ?_
    simp only [State.zone, Zone.next]
    split_ifs <;> rfl
  | escaped q => exact .char rfl
  | naming =>
    rw [step]
    split
    · rename_i hname
      exact .nothing rfl hname
    · exact gives_stepOutside rfl false c rest

theorem isQuote_of_isNameChar (h : Text.isNameChar c = true) : isQuote c = false := by
  refine Bool.eq_false_iff.mpr fun hquote => ?_
  rw [not_isNameChar_of_isQuote hquote] at h
  cases h

/-- **The quoted regions are kept.** -/
theorem regionsFrom_marked (st : State) (s : List Char) :
    regionsFrom st.zone (marked (piecesFrom st s)) = regionsFrom st.zone s := by
  induction s generalizing st with
  | nil => rfl
  | cons c s ih =>
    have hgives := gives_step st c s
    rw [piecesFrom]
    generalize step st c s = after at hgives
    cases hgives with
    | @char next hzone => exact regionsFrom_cons_congr (hzone ▸ ih next)
    | named hst hc =>
      rw [hst, hc, regionsFrom_cons_plain s (by decide)]
      exact (regionsFrom_cons_plain _ (by decide)).trans (ih .naming)
    | nothing hst hc =>
      rw [hst, regionsFrom_cons_plain s (isQuote_of_isNameChar hc)]
      exact ih .naming

/-- **Each placeholder adds a `?` outside quotes**, and nothing else does. -/
theorem count_outsideFrom_marked (st : State) (s : List Char) :
    (outsideFrom st.zone (marked (piecesFrom st s))).count '?'
      = (outsideFrom st.zone s).count '?' + (names (piecesFrom st s)).length := by
  induction s generalizing st with
  | nil => rfl
  | cons c s ih =>
    have hgives := gives_step st c s
    rw [piecesFrom]
    generalize step st c s = after at hgives
    cases hgives with
    | @char next hzone => exact count_outsideFrom_cons (hzone ▸ ih next)
    | @named name hst hc =>
      have hmark : outsideFrom .plain (marked (.named name :: piecesFrom .naming s))
          = '?' :: outsideFrom .plain (marked (piecesFrom .naming s)) :=
        outsideFrom_cons_plain _ (by decide)
      rw [hst, hc, outsideFrom_cons_plain s (by decide), List.count_cons_of_ne (by decide)]
      exact (congrArg (List.count '?') hmark).trans
        (List.count_cons_self.trans (congrArg (· + 1) (ih .naming)))
    | nothing hst hc =>
      have hmark : c ≠ '?' := by
        rintro rfl
        exact absurd hc (by decide)
      rw [hst, outsideFrom_cons_plain s (isQuote_of_isNameChar hc), List.count_cons_of_ne hmark]
      exact ih .naming

/-! ## No placeholder is left -/

/-- Where the reading of the sent text stands when that of the SQL is in a state. -/
def State.settled : State → State
  | .naming => .outside false
  | st => st

/-- After a colon that starts no placeholder, the sent text starts as the SQL does. -/
theorem namesHere_marked (s : List Char) :
    namesHere (marked (piecesFrom (.outside true) s)) = namesHere s := by
  cases s with
  | nil => rfl
  | cons c s =>
    rw [piecesFrom, step, stepOutside]
    split
    · rfl
    · rw [if_neg (by simp)]
      rfl

/-- A colon that starts no placeholder in the SQL starts none in the sent text. -/
theorem not_starts_marked {afterColon : Bool}
    (h : ¬(c == ':' && !afterColon && namesHere s) = true) :
    ¬(c == ':' && !afterColon &&
      namesHere (marked (piecesFrom (.outside (c == ':')) s))) = true := by
  cases hcolon : c == ':' with
  | false => simp
  | true =>
    rw [namesHere_marked]
    rwa [hcolon] at h

section Step

variable (ih : ∀ st : State,
  piecesFrom st.settled (marked (piecesFrom st s)) = (marked (piecesFrom st s)).map .char)

include ih

/-- Outside quotes, a character of the SQL leaves no placeholder in the sent text. -/
theorem piecesFrom_marked_stepOutside (afterColon : Bool) (c : Char) :
    piecesFrom (.outside afterColon)
        (marked ((stepOutside afterColon c s).1 ++ piecesFrom (stepOutside afterColon c s).2 s))
      = (marked ((stepOutside afterColon c s).1 ++
          piecesFrom (stepOutside afterColon c s).2 s)).map .char := by
  rw [stepOutside]
  split
  · rename_i hquote
    change piecesFrom _ (c :: marked (piecesFrom (.quoted c) s)) = _
    rw [piecesFrom, step, stepOutside, if_pos hquote]
    exact congrArg (.char c :: ·) (ih (.quoted c))
  · rename_i hquote
    split
    · change piecesFrom _ ('?' :: marked (piecesFrom .naming s)) = _
      rw [piecesFrom, step, stepOutside, if_neg (by decide), if_neg (by simp)]
      exact congrArg (.char '?' :: ·) (ih .naming)
    · rename_i hcolon
      change piecesFrom _ (c :: marked (piecesFrom (.outside (c == ':')) s)) = _
      rw [piecesFrom, step, stepOutside, if_neg hquote, if_neg (not_starts_marked hcolon)]
      exact congrArg (.char c :: ·) (ih (.outside (c == ':')))

/-- A character that is quoted is read in the sent text as it is in the SQL. -/
theorem piecesFrom_marked_quoted {st next : State}
    (hst : ∀ rest, step st c rest = ([.char c], next)) (hnext : next.settled = next) :
    piecesFrom st (marked (piecesFrom st (c :: s))) = (marked (piecesFrom st (c :: s))).map .char := by
  have hmarked : marked (piecesFrom st (c :: s)) = c :: marked (piecesFrom next s) := by
    rw [piecesFrom, hst]
    rfl
  rw [hmarked, piecesFrom, hst, List.map_cons, ← ih next, hnext]
  rfl

end Step

/-- **Nothing is left to bind.** -/
theorem piecesFrom_marked (st : State) (s : List Char) :
    piecesFrom st.settled (marked (piecesFrom st s)) = (marked (piecesFrom st s)).map .char := by
  induction s generalizing st with
  | nil => rfl
  | cons c s ih =>
    cases st with
    | outside afterColon => exact piecesFrom_marked_stepOutside ih afterColon c
    | quoted q =>
      refine piecesFrom_marked_quoted ih (fun _ => rfl) ?_
      split_ifs <;> rfl
    | escaped q => exact piecesFrom_marked_quoted ih (fun _ => rfl) rfl
    | naming =>
      rw [piecesFrom, step]
      split
      · exact ih .naming
      · exact piecesFrom_marked_stepOutside ih false c

/-! ## Every SQL -/

/-- **Binding leaves nothing to bind and keeps the quoting.**  Whatever SQL was bound to whatever
record, binding what is sent to any record that may be bound changes nothing and gives no value; and
what is sent has the quoted regions of the SQL, and outside them one `?` more for each value. -/
theorem bind_leaves_nothing_and_keeps_quotes {sql out : String} {r : Record} {values : List Value}
    (h : bind sql (.named r) = .ok (out, values)) :
    (∀ r' : Record, (Params.named r').ensureBindable = .ok () →
      bind out (.named r') = .ok (out, [])) ∧
    quotedRegions out.toList = quotedRegions sql.toList ∧
    (outsideQuotes out.toList).count '?'
      = (outsideQuotes sql.toList).count '?' + values.length := by
  obtain ⟨hout, hvalues⟩ := values_of_fill (bind_named_eq_ok.mp h).2
  have hlength : values.length = (names (pieces sql.toList)).length := by
    simpa using congrArg List.length hvalues
  rw [hout, hlength]
  refine ⟨fun r' hr' => bind_named_eq_ok.mpr ⟨hr', ?_⟩, regionsFrom_marked (.outside false) _,
    count_outsideFrom_marked (.outside false) _⟩
  have hpieces : pieces out.toList = out.toList.map .char := by
    rw [hout]
    exact piecesFrom_marked (.outside false) _
  rw [hpieces, fill_chars]

/-- Colons in a cast and in quotes, and a name that ends at the next placeholder. -/
theorem bind_leaves_nothing_and_keeps_quotes_cast :
    let out := "SELECT ':a?', b::c FROM t WHERE x=?? AND y=?"
    bind "SELECT ':a?', b::c FROM t WHERE x=:a:b AND y=?" (.named ⟨[("a", .int 1), ("b", .null)]⟩)
        = .ok (out, [.int 1, .null]) ∧
      bind out (.named ⟨[]⟩) = .ok (out, []) ∧
      quotedRegions out.toList = ["':a?'".toList] ∧ (outsideQuotes out.toList).count '?' = 3 := by
  intro out
  have hbind : bind "SELECT ':a?', b::c FROM t WHERE x=:a:b AND y=?"
      (.named ⟨[("a", .int 1), ("b", .null)]⟩) = .ok (out, [.int 1, .null]) := by decide +kernel
  obtain ⟨hagain, hregions, hcount⟩ := bind_leaves_nothing_and_keeps_quotes hbind
  refine ⟨hbind, hagain ⟨[]⟩ rfl, hregions.trans ?_, hcount.trans ?_⟩
  · decide +kernel
  · decide +kernel

end SqlShorthand.Placeholder
