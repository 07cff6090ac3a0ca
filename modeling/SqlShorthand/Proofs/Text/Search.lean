import Mathlib
import SqlShorthand.Text.Search

/-!
# Proofs/Text/Search — the first separator, and every piece

A text is split where the separator comes first (`splitOnce?_eq_some_iff`).  A replacement reaches
every piece of a text; `append_eq_replaceFrom_iff` says when it leaves the text in front alone.
-/

namespace SqlShorthand.Text

/-! ## Splitting at the first separator -/

section Splitting

variable {sep s before after : List Char} {c : Char}

theorem splitOnce?_of_prefix (hsep : sep ≠ []) (rest : List Char) :
    splitOnce? sep (sep ++ rest) = some ([], rest) := by
  obtain ⟨c, tail, rfl⟩ := List.exists_cons_of_ne_nil hsep
  have hprefix : (c :: tail).isPrefixOf? (c :: (tail ++ rest)) = some rest :=
    List.isPrefixOf?_eq_some_iff_append_eq.mpr rfl
  rw [List.cons_append, splitOnce?, hprefix]

theorem splitOnce?_cons (h : ¬sep <+: c :: s) :
    splitOnce? sep (c :: s)
      = (splitOnce? sep s).map fun (before, after) => (c :: before, after) := by
  have hprefix : sep.isPrefixOf? (c :: s) = none := by
    refine Option.eq_none_iff_forall_ne_some.mpr fun rest hrest => ?_
    exact h ⟨rest, List.isPrefixOf?_eq_some_iff_append_eq.mp hrest⟩
  rw [splitOnce?, hprefix]

/-- **A text without a separator is not split**… -/
theorem splitOnce?_eq_none_iff (hsep : sep ≠ []) : splitOnce? sep s = none ↔ ¬sep <:+: s := by
  induction s with
  | nil => simp [splitOnce?, hsep]
  | cons c s ih =>
    rw [List.infix_cons_iff, not_or]
    by_cases hstarts : sep <+: c :: s
    · obtain ⟨rest, hrest⟩ := id hstarts
      rw [← hrest, splitOnce?_of_prefix hsep]
      simp [hrest, hstarts]
    · rw [splitOnce?_cons hstarts, Option.map_eq_none_iff, ih]
      simp [hstarts]

/-- …**and another is split where the separator comes first.** -/
theorem splitOnce?_eq_some_iff (hsep : sep ≠ []) :
    splitOnce? sep s = some (before, after) ↔
      s = before ++ sep ++ after ∧ ∀ b a, s = b ++ sep ++ a → before.length ≤ b.length := by
  induction s generalizing before with
  | nil => simp [splitOnce?, hsep]
  | cons c s ih =>
    by_cases hstarts : sep <+: c :: s
    · obtain ⟨rest, hrest⟩ := hstarts
      rw [← hrest, splitOnce?_of_prefix hsep]
      constructor
      · rintro ⟨⟩
        exact ⟨rfl, fun _ _ _ => Nat.zero_le _⟩
      · rintro ⟨htext, hfirst⟩
        obtain rfl := List.length_eq_zero_iff.mp (Nat.le_zero.mp (hfirst [] rest rfl))
        rw [(List.append_right_inj sep).mp htext]
    · rw [splitOnce?_cons hstarts, Option.map_eq_some_iff]
      constructor
      · rintro ⟨⟨b', a'⟩, hsplit, ⟨⟩⟩
        obtain ⟨rfl, hfirst⟩ := ih.mp hsplit
        refine ⟨rfl, fun b a htext => ?_⟩
        cases b with
        | nil => exact absurd ⟨a, htext.symm⟩ hstarts
        | cons d b => exact Nat.succ_le_succ (hfirst b a (List.cons.inj htext).2)
      · rintro ⟨htext, hfirst⟩
        cases before with
        | nil => exact absurd ⟨after, htext.symm⟩ hstarts
        | cons d before =>
          obtain ⟨rfl, hs⟩ := List.cons.inj htext
          refine ⟨(before, after), ih.mpr ⟨hs, fun b a hb => ?_⟩, rfl⟩
          exact Nat.le_of_succ_le_succ (hfirst (c :: b) a (congrArg (c :: ·) hb))

end Splitting

/-! ## Replacing a piece -/

section Replacing

variable {piece new s : List Char} {c p d : Char} {tail ds : List Char}

theorem replaceFrom_eq_drop (piece new : List Char) (skip : Nat) (s : List Char) :
    replaceFrom piece new skip s = replaceFrom piece new 0 (s.drop skip) := by
  induction s generalizing skip with
  | nil => cases skip <;> rfl
  | cons c cs ih =>
    cases skip with
    | zero => rfl
    | succ skip => exact ih skip

/-- A piece at the start is replaced… -/
theorem replaceFrom_piece (new s : List Char) (p : Char) (tail : List Char) :
    replaceFrom (p :: tail) new 0 (p :: tail ++ s) = new ++ replaceFrom (p :: tail) new 0 s := by
  have hstarts : (p :: tail).isPrefixOf (p :: (tail ++ s)) = true :=
    List.isPrefixOf_iff_prefix.mpr ⟨s, rfl⟩
  rw [List.cons_append, replaceFrom, if_pos hstarts, replaceFrom_eq_drop]
  simp

/-- …and without one, the first character stays. -/
theorem replaceFrom_cons (h : ¬piece <+: c :: s) :
    replaceFrom piece new 0 (c :: s) = c :: replaceFrom piece new 0 s := by
  rw [replaceFrom, if_neg (mt List.isPrefixOf_iff_prefix.mp h)]

/-- **What is left alone by a replacement**: a text in front in which no piece starts.  The new text
starts otherwise than the piece, so that a piece which is replaced shows. -/
theorem append_eq_replaceFrom_iff (hd : d ≠ p) (t x y : List Char) :
    t ++ x = replaceFrom (p :: tail) (d :: ds) 0 (t ++ y) ↔
      (∀ before after, t ++ y = before ++ (p :: tail) ++ after → t.length ≤ before.length) ∧
        x = replaceFrom (p :: tail) (d :: ds) 0 y := by
  induction t with
  | nil => simp
  | cons c t ih =>
    by_cases hstarts : p :: tail <+: c :: (t ++ y)
    · obtain ⟨rest, hrest⟩ := hstarts
      have hfalse : c :: (t ++ x) ≠ replaceFrom (p :: tail) (d :: ds) 0 (c :: (t ++ y)) := by
        rw [← hrest, replaceFrom_piece]
        intro h
        exact hd ((List.cons.inj h).1.symm.trans (List.cons.inj hrest).1.symm)
      refine iff_of_false hfalse fun h => ?_
      exact absurd (h.1 [] rest hrest.symm) (by simp)
    · rw [List.cons_append, List.cons_append, replaceFrom_cons hstarts, List.cons.injEq,
        and_iff_right rfl, ih]
      refine and_congr_left fun _ => ?_
      constructor <;> intro h before after htext
      · cases before with
        | nil => exact absurd ⟨after, htext.symm⟩ hstarts
        | cons b before => exact Nat.succ_le_succ (h before after (List.cons.inj htext).2)
      · exact Nat.le_of_succ_le_succ (h (c :: before) after (congrArg (c :: ·) htext))

/-- A piece that does not overlap with itself is found again at itself, or after it. -/
theorem piece_append_eq (hp : p ∉ tail) {x before after : List Char}
    (h : p :: tail ++ x = before ++ (p :: tail) ++ after) :
    before = [] ∨ ∃ b, before = p :: tail ++ b ∧ x = b ++ (p :: tail) ++ after := by
  cases before with
  | nil => exact .inl rfl
  | cons c before =>
    simp only [List.cons_append, List.append_assoc, List.cons.injEq] at h
    obtain ⟨rfl, htail⟩ := h
    rcases List.append_eq_append_iff.mp htail with ⟨b, rfl, hx⟩ | ⟨b, rfl, hx⟩
    · exact .inr ⟨b, rfl, by rw [hx, List.append_assoc, List.cons_append]⟩
    · cases b with
      | nil => exact .inr ⟨[], by simp, by simpa using hx.symm⟩
      | cons e b =>
        obtain ⟨rfl, -⟩ := List.cons.inj hx
        exact absurd (List.mem_append_right _ List.mem_cons_self) hp

end Replacing

end SqlShorthand.Text
