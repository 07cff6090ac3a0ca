import SqlShorthand.Proofs.Cache.Freshness
import SqlShorthand.Proofs.Text

/-!
# Proofs/Cache/ExpiryText — the texts that name an expiry

An expiry is read from words: `never`, an amount, or an amount and a unit.  `Denotes` says so of the
text as it is written — blanks around and between the words (`Text.MadeOf`), digits with a plus sign
or without (`Counts`), a unit in any case — and `parse_eq_ok_iff` that this is what is read.

Two facts carry it: a text is made of its words in one way (`Text.words_eq_iff`), and a text that
starts with an amount is not the word `never` (`Counts.not_never`).
-/

namespace SqlShorthand

namespace Text

/-! ## Words -/

/-- **A text is made of words**: each a run of visible characters, with blanks around and between
them. -/
inductive MadeOf : List Char → List (List Char) → Prop where
  | blank {s : List Char} (hs : ∀ c ∈ s, isBlank c = true) : MadeOf s []
  | word {blanks word rest : List Char} {words : List (List Char)}
      (hblanks : ∀ c ∈ blanks, isBlank c = true) (hne : word ≠ [])
      (hword : ∀ c ∈ word, isBlank c = false) (hend : ∀ c ∈ rest.head?, isBlank c = true)
      (hrest : MadeOf rest words) : MadeOf (blanks ++ (word ++ rest)) (word :: words)

theorem words_cons_of_isBlank {c : Char} (s : List Char) (h : isBlank c = true) :
    words (c :: s) = words s := by
  rw [words, words, List.splitOnP_cons_eq_if_modifyHead, if_pos h,
    List.filter_cons_of_neg (by simp)]

theorem words_blanks_append {blanks : List Char} (s : List Char)
    (h : ∀ c ∈ blanks, isBlank c = true) : words (blanks ++ s) = words s := by
  induction blanks with
  | nil => rfl
  | cons c blanks ih =>
    obtain ⟨hc, hblanks⟩ := List.forall_mem_cons.mp h
    rw [List.cons_append, words_cons_of_isBlank _ hc, ih hblanks]

/-- A run of visible characters that ends is the first word. -/
theorem words_word_append {word rest : List Char} (hne : word ≠ [])
    (hword : ∀ c ∈ word, isBlank c = false) (hend : ∀ c ∈ rest.head?, isBlank c = true) :
    words (word ++ rest) = word :: words rest := by
  rw [words, splitOnP_append hword]
  cases rest with
  | nil => simp [words, hne]
  | cons c rest =>
    rw [words_cons_of_isBlank rest (hend c rfl), words, List.splitOnP_cons_eq_if_modifyHead,
      if_pos (hend c rfl), List.modifyHead_cons, List.append_nil,
      List.filter_cons_of_pos (by simpa using hne)]

/-- After the blanks stands a word, or nothing. -/
theorem trimStart_eq_nil {s : List Char} (h : (trimStart s).takeWhile (!isBlank ·) = []) :
    trimStart s = [] := by
  cases hcons : trimStart s with
  | nil => rfl
  | cons c tail =>
    have hvisible := head?_trimStart s c (by rw [hcons]; rfl)
    rw [hcons, List.takeWhile_cons_of_pos (by simpa using hvisible)] at h
    cases h

/-- Every text is made of its words: blanks, a word, and the rest, which is shorter. -/
theorem madeOf_words (s : List Char) : MadeOf s (words s) := by
  induction hlength : s.length using Nat.strong_induction_on generalizing s with
  | _ n ih =>
    let blanks := s.takeWhile isBlank
    let word := (trimStart s).takeWhile (!isBlank ·)
    let rest := (trimStart s).dropWhile (!isBlank ·)
    have hs : s = blanks ++ (word ++ rest) := by
      rw [List.takeWhile_append_dropWhile, trimStart, List.takeWhile_append_dropWhile]
    have hblanks : ∀ c ∈ blanks, isBlank c = true := fun c hc => List.mem_takeWhile_imp hc
    have hword : ∀ c ∈ word, isBlank c = false := fun c hc => by
      simpa using List.mem_takeWhile_imp hc
    have hend : ∀ c ∈ rest.head?, isBlank c = true := by
      intro c hc
      have hstop := List.head?_dropWhile_not (!isBlank ·) (trimStart s)
      rw [Option.mem_def.mp hc] at hstop
      simpa using hstop
    by_cases hne : word = []
    · have hblank : s = blanks ++ [] := by
        rw [← trimStart_eq_nil hne, trimStart, List.takeWhile_append_dropWhile]
      have hwords : words s = [] := by rw [hblank, words_blanks_append [] hblanks]; rfl
      rw [hwords]
      exact .blank (by rwa [hblank, List.append_nil])
    · have hshorter : rest.length < n := by
        have hpos := List.length_pos_iff.mpr hne
        rw [← hlength, hs, List.length_append, List.length_append]
        omega
      rw [hs, words_blanks_append _ hblanks, words_word_append hne hword hend]
      exact .word hblanks hne hword hend (ih _ hshorter rest rfl)

/-- **A text is made of its words, and of no others.** -/
theorem words_eq_iff {s : List Char} {ws : List (List Char)} : words s = ws ↔ MadeOf s ws := by
  refine ⟨fun h => h ▸ madeOf_words s, fun h => ?_⟩
  induction h with
  | blank hs =>
    rename_i s
    rw [← List.append_nil s, words_blanks_append [] hs]
    rfl
  | word hblanks hne hword hend _ ih =>
    rw [words_blanks_append _ hblanks, words_word_append hne hword hend, ih]

/-- A text starts, after its blanks, with its first word. -/
theorem MadeOf.head?_trim {s word : List Char} {ws : List (List Char)}
    (h : MadeOf s (word :: ws)) : (trim s).head? = word.head? := by
  obtain - | ⟨hblanks, hne, hword, -, -⟩ := h
  obtain ⟨c, word, rfl⟩ := List.exists_cons_of_ne_nil hne
  rw [trim, trimStart, dropWhile_run hblanks, trimEnd_append]
  · rfl
  · exact fun a ha => hword a (List.mem_of_getLast? ha)
  · intro a ha
    rw [← Option.some.inj ha]
    exact hword c List.mem_cons_self

end Text

namespace Expiry

/-! ## Amounts and units -/

/-- **An amount as it is written**: decimal digits, with a plus sign or without, for a number that
64 bits hold. -/
inductive Counts : List Char → Nat → Prop where
  | plain {digits : List Char} (hne : digits ≠ []) (hdigits : ∀ c ∈ digits, c.isDigit = true)
      (hfits : Nat.ofDigitChars 10 digits 0 < 2 ^ 64) :
      Counts digits (Nat.ofDigitChars 10 digits 0)
  | plus {digits : List Char} (hne : digits ≠ []) (hdigits : ∀ c ∈ digits, c.isDigit = true)
      (hfits : Nat.ofDigitChars 10 digits 0 < 2 ^ 64) :
      Counts ('+' :: digits) (Nat.ofDigitChars 10 digits 0)

theorem natural?_eq_some_iff {digits : List Char} {n : Nat} :
    Decimal.natural? digits = some n ↔ digits ≠ [] ∧ (∀ c ∈ digits, c.isDigit = true) ∧
      Nat.ofDigitChars 10 digits 0 = n := by
  simp only [Decimal.natural?, Decimal.valueFrom_eq_ofDigitChars, Option.ite_none_right_eq_some,
    Bool.and_eq_true, Bool.not_eq_true', List.isEmpty_eq_false_iff, List.all_eq_true, and_assoc,
    Option.some.injEq]

/-- **An amount is read as it is written.** -/
theorem unsigned64?_eq_some_iff {amount : List Char} {n : Nat} :
    Decimal.unsigned64? amount = some n ↔ Counts amount n := by
  have hread {digits : List Char} :
      (Decimal.natural? digits).filter (· < UInt64.size) = some n ↔
        (digits ≠ [] ∧ (∀ c ∈ digits, c.isDigit = true) ∧ Nat.ofDigitChars 10 digits 0 = n) ∧
          n < 2 ^ 64 := by
    rw [Option.filter_eq_some_iff, natural?_eq_some_iff, decide_eq_true_iff]
    rfl
  rw [Decimal.unsigned64?.eq_def]
  dsimp only
  split
  · rename_i digits
    rw [hread]
    constructor
    · rintro ⟨⟨hne, hdigits, rfl⟩, hfits⟩
      exact .plus hne hdigits hfits
    · rintro (⟨-, hdigits, -⟩ | ⟨hne, hdigits, hfits⟩)
      · exact absurd (hdigits '+' List.mem_cons_self) (by decide)
      · exact ⟨⟨hne, hdigits, rfl⟩, hfits⟩
  · rename_i hplus
    rw [hread]
    constructor
    · rintro ⟨⟨hne, hdigits, rfl⟩, hfits⟩
      exact .plain hne hdigits hfits
    · rintro (⟨hne, hdigits, hfits⟩ | ⟨-, -, -⟩)
      · exact ⟨⟨hne, hdigits, rfl⟩, hfits⟩
      · exact absurd rfl (hplus _)

theorem Counts.lt {amount : List Char} {n : Nat} (h : Counts amount n) : n < 2 ^ 64 := by
  cases h <;> assumption

/-- An amount is made of visible characters, and is no letter at its start. -/
theorem Counts.visible {amount : List Char} {n : Nat} (h : Counts amount n) :
    amount ≠ [] ∧ ∀ c ∈ amount, Text.isBlank c = false ∧ c.toLower ≠ 'n' := by
  have hdigit {c : Char} (hc : c.isDigit = true) : Text.isBlank c = false ∧ c.toLower ≠ 'n' := by
    refine ⟨Text.isBlank_of_isNameChar (Text.isNameChar_of_isDigit hc), fun hn => ?_⟩
    have hupper : ¬c.isUpper = true := by
      simp only [Char.isDigit, Char.isUpper, Bool.and_eq_true, decide_eq_true_eq, ge_iff_le,
        UInt32.le_iff_toNat_le, Char.reduceVal, UInt32.reduceToNat] at hc ⊢
      omega
    rw [Char.toLower_eq_of_not_isUpper hupper] at hn
    rw [hn] at hc
    exact absurd hc (by decide)
  cases h with
  | plain hne hdigits => exact ⟨hne, fun c hc => hdigit (hdigits c hc)⟩
  | plus hne hdigits =>
    refine ⟨List.cons_ne_nil _ _, List.forall_mem_cons.mpr ⟨by decide, fun c hc => ?_⟩⟩
    exact hdigit (hdigits c hc)

/-- **A text that starts with an amount is not the word `never`.** -/
theorem Counts.not_never {s amount : List Char} {ws : List (List Char)} {n : Nat}
    (h : Counts amount n) (hwords : Text.MadeOf s (amount :: ws)) :
    (Text.trim s).map Char.toLower ≠ ['n', 'e', 'v', 'e', 'r'] := by
  intro hnever
  obtain ⟨hne, hvisible⟩ := h.visible
  obtain ⟨c, rest, rfl⟩ := List.exists_cons_of_ne_nil hne
  have hhead := hwords.head?_trim
  obtain ⟨d, tail, htrim, hd, -⟩ := List.map_eq_cons_iff.mp hnever
  rw [htrim] at hhead
  obtain rfl : d = c := Option.some.inj hhead
  exact (hvisible d List.mem_cons_self).2 hd

/-- No unit is listed twice. -/
theorem lookup_units_eq_some_iff {name : String} {seconds : Nat} :
    units.lookup name = some seconds ↔ (name, seconds) ∈ units := by
  have hlisted : ∀ unit ∈ units, units.lookup unit.1 = some unit.2 := by decide +kernel
  refine ⟨fun h => ?_, hlisted (name, seconds)⟩
  obtain ⟨before, after, hunits, -⟩ := List.lookup_eq_some_iff.mp h
  rw [hunits]
  exact List.mem_append_right before List.mem_cons_self

/-! ## What a text denotes -/

/-- **The expiry that a text denotes.** -/
inductive Denotes (s : List Char) : Expiry → Prop where
  | never (h : (Text.trim s).map Char.toLower = ['n', 'e', 'v', 'e', 'r']) : Denotes s .never
  /-- An amount alone is one of seconds. -/
  | seconds {amount : List Char} {n : Nat} (hwords : Text.MadeOf s [amount])
      (hamount : Counts amount n) : Denotes s (.after n)
  | unit {amount unit : List Char} {n seconds : Nat} (hwords : Text.MadeOf s [amount, unit])
      (hamount : Counts amount n) (hunit : (.ofList (unit.map Char.toLower), seconds) ∈ units)
      (hfits : n * seconds < 2 ^ 64) : Denotes s (.after (n * seconds))

theorem ofAmount?_eq_some_iff {amount : List Char} {unit : String} {e : Expiry} :
    ofAmount? amount unit = some e ↔ ∃ n seconds, Counts amount n ∧
      (Text.lowerAscii unit, seconds) ∈ units ∧ n * seconds < 2 ^ 64 ∧ e = .after (n * seconds) := by
  simp only [← unsigned64?_eq_some_iff, ← lookup_units_eq_some_iff, ofAmount?]
  have hsize : UInt64.size = 2 ^ 64 := rfl
  cases Decimal.unsigned64? amount with
  | none => simp
  | some n =>
    cases units.lookup (Text.lowerAscii unit) with
    | none => simp
    | some seconds => simp [hsize, eq_comm]

theorem ofText?_eq_some_iff {text : String} {e : Expiry} :
    ofText? text = some e ↔ Denotes text.toList e := by
  have hnever : Text.sameIgnoringCase (Text.trimmed text) "never" = true ↔
      (Text.trim text.toList).map Char.toLower = ['n', 'e', 'v', 'e', 'r'] := by
    rw [Text.sameIgnoringCase, beq_iff_eq, Text.lowerAscii, Text.trimmed, String.toList_ofList]
    exact String.ofList_inj
  have hseconds : (Text.lowerAscii "seconds", 1) ∈ units := by decide +kernel
  rw [ofText?]
  constructor
  · intro h
    split at h
    · cases h
      exact .never (hnever.mp ‹_›)
    · split at h
      · rename_i amount hwords
        obtain ⟨n, seconds, hamount, hunit, -, rfl⟩ := ofAmount?_eq_some_iff.mp h
        obtain rfl : seconds = 1 := Option.some.inj
          ((lookup_units_eq_some_iff.mpr hunit).symm.trans (lookup_units_eq_some_iff.mpr hseconds))
        rw [Nat.mul_one]
        exact .seconds (Text.words_eq_iff.mp hwords) hamount
      · rename_i amount unit hwords
        obtain ⟨n, seconds, hamount, hunit, hfits, rfl⟩ := ofAmount?_eq_some_iff.mp h
        rw [Text.lowerAscii, String.toList_ofList] at hunit
        exact .unit (Text.words_eq_iff.mp hwords) hamount hunit hfits
      · cases h
  · intro h
    cases h with
    | never h => rw [if_pos (hnever.mpr h)]
    | seconds hwords hamount =>
      rw [if_neg (mt hnever.mp (hamount.not_never hwords)), Text.words_eq_iff.mpr hwords]
      refine ofAmount?_eq_some_iff.mpr ⟨_, 1, hamount, hseconds, ?_, by rw [Nat.mul_one]⟩
      rw [Nat.mul_one]
      exact hamount.lt
    | unit hwords hamount hunit hfits =>
      rw [if_neg (mt hnever.mp (hamount.not_never hwords)), Text.words_eq_iff.mpr hwords]
      refine ofAmount?_eq_some_iff.mpr ⟨_, _, hamount, ?_, hfits, rfl⟩
      rwa [Text.lowerAscii, String.toList_ofList]

theorem parse_eq_error_iff {text : String} :
    parse text = .error (.invalidExpiry text) ↔ ∀ e, ¬Denotes text.toList e := by
  simp only [← ofText?_eq_some_iff, parse]
  cases ofText? text <;> simp

/-! ## There and back -/

end Expiry

end SqlShorthand
