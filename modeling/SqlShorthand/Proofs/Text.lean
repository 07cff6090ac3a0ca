import Mathlib
import SqlShorthand.Text.Blank
import SqlShorthand.Text.Word
import SqlShorthand.Decimal.Reader

/-!
# Proofs/Text — trimming, runs and splitting, as the readers use them

Every reader in this library cuts a text in one of three ways: it trims it, it takes the longest run
of characters of a class, or it splits it at a separator.  For each cut there are two facts here:

* what is left — `head?_trim` / `getLast?_trim`, `mem_splitOnP`, `notMem_splitOn`;
* when the cut gives back what was put together — `trim_eq_self`, `takeWhile_run` /
  `dropWhile_run`, and for numbers `valueFrom_toDigits`.
-/

namespace SqlShorthand.Text

/-! ## Trimming -/

/-- A trimmed text starts with a visible character. -/
theorem head?_trimStart (s : List Char) : ∀ c ∈ (trimStart s).head?, isBlank c = false := by
  intro c hc
  have h := List.head?_dropWhile_not isBlank s
  rw [trimStart, Option.mem_def] at hc
  rwa [hc] at h

/-- Trimming the end takes a prefix. -/
theorem trimEnd_isPrefix (s : List Char) : trimEnd s <+: s := by
  have h : s.reverse.dropWhile isBlank <:+ s.reverse := List.dropWhile_suffix isBlank
  simpa [trimEnd] using List.reverse_prefix.mpr h

theorem head?_trim (s : List Char) : ∀ c ∈ (trim s).head?, isBlank c = false := by
  intro c hc
  obtain ⟨t, ht⟩ := trimEnd_isPrefix (trimStart s)
  refine head?_trimStart s c ?_
  rw [Option.mem_def, trim] at hc
  rw [Option.mem_def, ← ht, List.head?_append, hc]
  rfl

theorem getLast?_trim (s : List Char) : ∀ c ∈ (trim s).getLast?, isBlank c = false := by
  intro c hc
  rw [trim, trimEnd, List.getLast?_reverse] at hc
  exact head?_trimStart (trimStart s).reverse c hc

/-- **A text with visible ends is its own trim** — the converse of the two lemmas above. -/
theorem trim_eq_self {s : List Char} (hhead : ∀ c ∈ s.head?, isBlank c = false)
    (hlast : ∀ c ∈ s.getLast?, isBlank c = false) : trim s = s := by
  have hstart : trimStart s = s := by
    cases s with
    | nil => rfl
    | cons c s => exact trimStart_cons s (hhead c rfl)
  rw [trim, hstart]
  rcases List.eq_nil_or_concat s with rfl | ⟨t, c, rfl⟩
  · rfl
  · rw [List.concat_eq_append] at hlast ⊢
    exact trimEnd_append_singleton t (hlast c List.getLast?_concat)

@[simp] theorem trim_trim (s : List Char) : trim (trim s) = trim s :=
  trim_eq_self (head?_trim s) (getLast?_trim s)

theorem trim_cons_of_isBlank {c : Char} (s : List Char) (h : isBlank c = true) :
    trim (c :: s) = trim s := by
  rw [trim, trim, trimStart, trimStart, List.dropWhile_cons_of_pos h]

/-- Blanks at the end are those after the last visible character. -/
theorem trimEnd_append {s : List Char} (t : List Char)
    (hs : ∀ c ∈ s.getLast?, isBlank c = false) : trimEnd (s ++ t) = s ++ trimEnd t := by
  have hend : s.reverse.dropWhile isBlank = s.reverse := by
    rcases List.eq_nil_or_concat s with rfl | ⟨u, c, rfl⟩
    · rfl
    · rw [List.concat_eq_append] at hs ⊢
      rw [List.reverse_concat, List.dropWhile_cons_of_neg (by simp [hs c List.getLast?_concat])]
  rw [trimEnd, trimEnd, List.reverse_append, List.dropWhile_append]
  split
  · rename_i hnil
    rw [List.isEmpty_iff.mp hnil, hend, List.reverse_reverse, List.reverse_nil, List.append_nil]
  · rw [List.reverse_append, List.reverse_reverse]

theorem mem_of_mem_trim {c : Char} {s : List Char} (h : c ∈ trim s) : c ∈ s :=
  List.dropWhile_subset isBlank ((trimEnd_isPrefix (trimStart s)).subset h)

/-! ## Name characters -/

/-- The code points of the name characters. -/
theorem toNat_of_isNameChar {c : Char} (h : isNameChar c = true) :
    48 ≤ c.toNat ∧ c.toNat ≤ 57 ∨ 65 ≤ c.toNat ∧ c.toNat ≤ 90 ∨ c.toNat = 95 ∨
      97 ≤ c.toNat ∧ c.toNat ≤ 122 := by
  simp only [isNameChar, Char.isAlphanum, Char.isAlpha, Char.isUpper, Char.isLower, Char.isDigit,
    Bool.or_eq_true, Bool.and_eq_true, decide_eq_true_eq, beq_iff_eq, ge_iff_le,
    UInt32.le_iff_toNat_le] at h
  have hval : c.val.toNat = c.toNat := rfl
  rcases h with h | rfl
  · simp only [hval, UInt32.reduceToNat, Char.reduceVal] at h
    omega
  · decide

/-- A name character is visible. -/
theorem isBlank_of_isNameChar {c : Char} (h : isNameChar c = true) : isBlank c = false := by
  have := toNat_of_isNameChar h
  simp only [isBlank, Bool.or_eq_false_iff, Bool.and_eq_false_iff, decide_eq_false_iff_not,
    beq_eq_false_iff_ne]
  omega

theorem isNameChar_of_isDigit {c : Char} (h : c.isDigit = true) : isNameChar c = true := by
  simp [isNameChar, Char.isAlphanum, h]

/-! ## Runs -/

section Runs

variable {α : Type} {p : α → Bool} {s rest : List α}

/-- **A run followed by something else is taken whole** — and nothing more is. -/
theorem takeWhile_run (hs : ∀ a ∈ s, p a = true) (hrest : ∀ a ∈ rest.head?, p a = false) :
    (s ++ rest).takeWhile p = s := by
  rw [List.takeWhile_append_of_pos hs]
  cases rest with
  | nil => rw [List.takeWhile_nil, List.append_nil]
  | cons a rest =>
    rw [List.takeWhile_cons_of_neg (by simp [hrest a rfl]), List.append_nil]

/-- …and only such a run is: the converse of `takeWhile_run`. -/
theorem run_of_takeWhile (h : (s ++ rest).takeWhile p = s) :
    (∀ a ∈ s, p a = true) ∧ ∀ a ∈ rest.head?, p a = false := by
  have hs : ∀ a ∈ s, p a = true := by
    intro a ha
    rw [← h] at ha
    exact List.mem_takeWhile_imp ha
  refine ⟨hs, fun a ha => ?_⟩
  obtain ⟨tail, rfl⟩ := List.head?_eq_some_iff.mp ha
  rw [List.takeWhile_append_of_pos hs] at h
  have hnil := List.append_right_eq_self.mp h
  rw [← Bool.not_eq_true]
  intro hp
  rw [List.takeWhile_cons_of_pos hp] at hnil
  exact List.cons_ne_nil _ _ hnil

/-- What ends a run does not change what is taken before it. -/
theorem takeWhile_append_stop (s : List α) (hrest : ∀ a ∈ rest.head?, p a = false) :
    (s ++ rest).takeWhile p = s.takeWhile p := by
  induction s with
  | nil => simpa using takeWhile_run (s := []) (by simp) hrest
  | cons a s ih => rw [List.cons_append, List.takeWhile_cons, List.takeWhile_cons, ih]

theorem dropWhile_run (hs : ∀ a ∈ s, p a = true) (hrest : ∀ a ∈ rest.head?, p a = false) :
    (s ++ rest).dropWhile p = rest := by
  rw [List.dropWhile_append_of_pos hs]
  cases rest with
  | nil => rw [List.dropWhile_nil]
  | cons a rest => rw [List.dropWhile_cons_of_neg (by simp [hrest a rfl])]

end Runs

/-! ## Splitting -/

section Splitting

variable {α : Type} {p : α → Bool} {x : α} {s t piece : List α}

/-- What stands before the first separator belongs to the first piece. -/
theorem splitOnP_append (hs : ∀ x ∈ s, p x = false) :
    (s ++ t).splitOnP p = (t.splitOnP p).modifyHead (s ++ ·) := by
  induction s with
  | nil =>
    obtain ⟨q, qs, hq⟩ := List.exists_cons_of_ne_nil (List.splitOnP_ne_nil p t)
    rw [List.nil_append, hq]
    rfl
  | cons y s ih =>
    rw [List.cons_append, List.splitOnP_cons_eq_if_modifyHead, hs y List.mem_cons_self,
      ih fun x hx => hs x (List.mem_cons_of_mem y hx), List.modifyHead_modifyHead]
    rfl

/-- A piece holds what the text holds, separators apart. -/
theorem mem_splitOnP (hp : piece ∈ s.splitOnP p) (hx : x ∈ piece) : x ∈ s ∧ p x = false := by
  induction s generalizing piece with
  | nil =>
    rw [List.splitOnP_nil, List.mem_singleton] at hp
    rw [hp] at hx
    exact absurd hx List.not_mem_nil
  | cons y s ih =>
    rw [List.splitOnP_cons_eq_if_modifyHead] at hp
    split at hp
    · rcases List.mem_cons.mp hp with rfl | hp
      · exact absurd hx List.not_mem_nil
      · exact (ih hp hx).imp_left (List.mem_cons_of_mem y)
    · obtain ⟨q, qs, hq⟩ := List.exists_cons_of_ne_nil (List.splitOnP_ne_nil p s)
      rw [hq, List.modifyHead_cons, List.mem_cons] at hp
      rw [hq] at ih
      rcases hp with rfl | hp
      · rcases List.mem_cons.mp hx with rfl | hx
        · exact ⟨List.mem_cons_self, Bool.eq_false_iff.mpr ‹_›⟩
        · exact (ih List.mem_cons_self hx).imp_left (List.mem_cons_of_mem y)
      · exact (ih (List.mem_cons_of_mem q hp) hx).imp_left (List.mem_cons_of_mem y)

variable [BEq α] {a : α}

theorem mem_splitOn (hp : piece ∈ s.splitOn a) (hx : x ∈ piece) : x ∈ s :=
  (mem_splitOnP hp hx).1

/-- No piece holds the separator. -/
theorem notMem_splitOn [LawfulBEq α] (hp : piece ∈ s.splitOn a) : a ∉ piece := by
  intro ha
  have h := (mem_splitOnP hp ha).2
  rw [beq_self_eq_true] at h
  exact Bool.noConfusion h

end Splitting

end SqlShorthand.Text

/-! ## Numbers -/

namespace SqlShorthand.Decimal

/-- Digits are read as the number that they write. -/
theorem valueFrom_eq_ofDigitChars (n : Nat) (ds : List Char) :
    valueFrom n ds = Nat.ofDigitChars 10 ds n := by
  simp only [valueFrom, digitValue, Nat.ofDigitChars, Nat.mul_comm]

/-- The digits of a number are read as that number. -/
theorem valueFrom_toDigits (n : Nat) : valueFrom 0 (Nat.toDigits 10 n) = n := by
  rw [valueFrom_eq_ofDigitChars, Nat.ofDigitChars_ten_toDigits]

end SqlShorthand.Decimal
