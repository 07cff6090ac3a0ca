import SqlShorthand.Template
import SqlShorthand.Proofs.Text
import SqlShorthand.Proofs.Text.Search

/-!
# Proofs/Template — a row is written in one pass, up to its number

A template is cut into slots and characters in one way, from left to right (`cuts_iff`), and for a
row each part becomes one thing (`becomes_iff`).  So there is one text that takes one pass
(`SinglePass`): what comes from a field or a filter stands in it as it is, whatever it looks like.

The slot of the row's number is not filled in that pass.  It is left, and every `{$:key}` of the
text is replaced afterwards, no matter where it comes from.  `flatMap_partOnce_iff` finds when that
does no harm: exactly if the filled text reads `{$:key}` nowhere but at slots of the template
(`OnlyOwnNumbers`).  It is an induction over the parts, with `Text.append_eq_replaceFrom_iff` for
the text of one part: a replacement within it would show, since a number does not start as a slot
does.
-/

namespace SqlShorthand.Template

/-! ## Slots -/

/-- What ends a slot, after its name. -/
def Slot.ending (s : Slot) : List Char :=
  (match s.spec with
    | some spec => ':' :: spec
    | none => []) ++ ['\x7d']

theorem Slot.source_eq (s : Slot) :
    s.source = '\x7b' :: '$' :: (s.field.getD [] ++ s.ending) := by
  rw [source, ending]
  cases s.spec <;> simp

/-- A name is made of word characters… -/
def IsName (name : List Char) : Prop := name ≠ [] ∧ ∀ c ∈ name, Text.isWord c = true

/-- …and a spec of anything but the brace that ends it. -/
def IsSpec (spec : List Char) : Prop := spec ≠ [] ∧ ∀ c ∈ spec, (c != '\x7d') = true

/-- **A slot that can be written.** -/
structure Slot.IsWritable (s : Slot) : Prop where
  field : ∀ name ∈ s.field, IsName name
  spec : ∀ spec ∈ s.spec, IsSpec spec

section Reading

variable {field : Option (List Char)} {text : List Char} {s : Slot}

theorem Slot.head?_ending (s : Slot) (rest : List Char) :
    ∀ c ∈ (s.ending ++ rest).head?, Text.isWord c = false := by
  rw [ending]
  cases s.spec <;> rintro c ⟨⟩ <;> decide

/-- The end of a slot is read as it can be written… -/
theorem of_slotEnd? (h : slotEnd? field text = some s) :
    s.field = field ∧ (∀ spec ∈ s.spec, IsSpec spec) ∧ s.ending <+: text := by
  rw [slotEnd?.eq_def] at h
  split at h
  · rename_i rest
    cases h
    exact ⟨rfl, nofun, rest, rfl⟩
  · rename_i rest
    split at h
    · cases h
    · cases h
    · rename_i hspec hmore
      cases h
      obtain ⟨c, more, hdrop⟩ := List.exists_cons_of_ne_nil hmore
      have hc : (c != '\x7d') = false := by
        have hhead := List.head?_dropWhile_not (· != '\x7d') rest
        rwa [hdrop] at hhead
      obtain rfl : c = '\x7d' := by simpa using hc
      refine ⟨rfl, ?_, more, ?_⟩
      · rintro spec ⟨⟩
        exact ⟨hspec, fun c => List.mem_takeWhile_imp⟩
      · have hrest := List.takeWhile_append_dropWhile (p := (· != '\x7d')) (l := rest)
        rw [hdrop] at hrest
        simp [Slot.ending, hrest]
  · cases h

/-- …and what can be written is read back. -/
theorem slotEnd?_ending (hspec : ∀ spec ∈ s.spec, IsSpec spec) (rest : List Char) :
    slotEnd? s.field (s.ending ++ rest) = some s := by
  obtain ⟨field, _ | spec⟩ := s
  · rfl
  · obtain ⟨hne, hspec⟩ := hspec spec rfl
    have hstop : ∀ c ∈ ('\x7d' :: rest).head?, (c != '\x7d') = false := by
      rintro c ⟨⟩
      decide
    have htext : (Slot.mk field (some spec)).ending ++ rest = ':' :: (spec ++ '\x7d' :: rest) := by
      simp [Slot.ending]
    rw [htext, slotEnd?, Text.takeWhile_run hspec hstop, Text.dropWhile_run hspec hstop]
    cases spec with
    | nil => exact absurd rfl hne
    | cons c spec => rfl

theorem of_slotAt? (h : slotAt? text = some s) : s.IsWritable ∧ s.source <+: text := by
  rw [slotAt?.eq_def] at h
  split at h
  · rename_i rest
    split at h
    · obtain ⟨hfield, hspec, hending⟩ := of_slotEnd? h
      refine ⟨⟨by rw [hfield]; nofun, hspec⟩, ?_⟩
      rw [s.source_eq, hfield]
      exact (List.prefix_append_right_inj ['\x7b', '$']).mpr hending
    · rename_i hname
      obtain ⟨hfield, hspec, hending⟩ := of_slotEnd? h
      refine ⟨⟨?_, hspec⟩, ?_⟩
      · rw [hfield]
        rintro name ⟨⟩
        exact ⟨hname, fun c => List.mem_takeWhile_imp⟩
      · rw [s.source_eq, hfield, Option.getD_some]
        nth_rewrite 2 [← List.takeWhile_append_dropWhile (p := Text.isWord) (l := rest)]
        exact (List.prefix_append_right_inj ('\x7b' :: '$' :: rest.takeWhile Text.isWord)).mpr
          hending
  · cases h

theorem slotAt?_source (hs : s.IsWritable) (rest : List Char) :
    slotAt? (s.source ++ rest) = some s := by
  have hname : ∀ c ∈ s.field.getD [], Text.isWord c = true := by
    cases hfield : s.field with
    | none => nofun
    | some name => exact (hs.field name hfield).2
  have hend := slotEnd?_ending hs.spec rest
  have hstop := s.head?_ending rest
  rw [s.source_eq, List.cons_append, List.cons_append, List.append_assoc, slotAt?,
    Text.takeWhile_run hname hstop, Text.dropWhile_run hname hstop]
  cases hfield : s.field with
  | none => rwa [hfield] at hend
  | some name =>
    rw [hfield] at hend
    cases name with
    | nil => exact absurd rfl (hs.field [] hfield).1
    | cons c name => exact hend

/-- **The slot that a text starts with** is the one that can be written and is written there. -/
theorem slotAt?_eq_some_iff : slotAt? text = some s ↔ s.IsWritable ∧ s.source <+: text := by
  refine ⟨of_slotAt?, ?_⟩
  rintro ⟨hs, rest, rfl⟩
  exact slotAt?_source hs rest

end Reading

/-! ## The parts of a template -/

/-- **A text cut into slots and characters**, from left to right: where a slot can start it does,
and what follows it is cut in turn. -/
inductive Cuts : List Char → List Part → Prop where
  | nil : Cuts [] []
  | slot {s : Slot} {rest : List Char} {ps : List Part} (h : s.IsWritable) (hrest : Cuts rest ps) :
      Cuts (s.source ++ rest) (.slot s :: ps)
  | char {c : Char} {rest : List Char} {ps : List Part}
      (h : ∀ s : Slot, s.IsWritable → ¬s.source <+: c :: rest) (hrest : Cuts rest ps) :
      Cuts (c :: rest) (.char c :: ps)

theorem partsFrom_eq_drop (skip : Nat) (text : List Char) :
    partsFrom skip text = partsFrom 0 (text.drop skip) := by
  induction text generalizing skip with
  | nil => cases skip <;> rfl
  | cons c rest ih =>
    cases skip with
    | zero => rfl
    | succ skip => exact ih skip

theorem partsFrom_slot {s : Slot} (hs : s.IsWritable) (rest : List Char) :
    partsFrom 0 (s.source ++ rest) = .slot s :: partsFrom 0 rest := by
  have hslot := slotAt?_source hs rest
  have hdrop : (s.source ++ rest).drop s.source.length = rest := List.drop_left
  obtain ⟨tail, htail⟩ : ∃ tail, s.source = '\x7b' :: tail := ⟨_, s.source_eq⟩
  rw [htail, List.cons_append] at hslot hdrop ⊢
  rw [partsFrom, hslot]
  dsimp only
  rw [partsFrom_eq_drop, htail]
  exact congrArg (fun text => Part.slot s :: partsFrom 0 text) hdrop

theorem partsFrom_char {c : Char} {rest : List Char}
    (h : ∀ s : Slot, s.IsWritable → ¬s.source <+: c :: rest) :
    partsFrom 0 (c :: rest) = .char c :: partsFrom 0 rest := by
  have hnone : slotAt? (c :: rest) = none := by
    refine Option.eq_none_iff_forall_ne_some.mpr fun s hs => ?_
    obtain ⟨hwritable, hprefix⟩ := of_slotAt? hs
    exact h s hwritable hprefix
  rw [partsFrom, hnone]

theorem cuts_partsFrom (text : List Char) : Cuts text (partsFrom 0 text) := by
  -- A slot takes several characters at once, so the induction is on the length.
  induction hn : text.length using Nat.strong_induction_on generalizing text with
  | _ n ih =>
    cases text with
    | nil => exact .nil
    | cons c rest =>
      cases hslot : slotAt? (c :: rest) with
      | some s =>
        obtain ⟨hs, after, htext⟩ := of_slotAt? hslot
        have hlength : after.length < n := by
          rw [← hn, ← htext, List.length_append, s.source_eq]
          simp
        rw [← htext, partsFrom_slot hs]
        exact .slot hs (ih _ hlength after rfl)
      | none =>
        have hno : ∀ s : Slot, s.IsWritable → ¬s.source <+: c :: rest := by
          intro s hs hprefix
          cases hslot.symm.trans (slotAt?_eq_some_iff.mpr ⟨hs, hprefix⟩)
        rw [partsFrom_char hno]
        exact .char hno (ih _ (hn ▸ Nat.lt_succ_self _) rest rfl)

/-- **A text is cut in one way.** -/
theorem cuts_iff {text : List Char} {ps : List Part} : Cuts text ps ↔ ps = partsFrom 0 text := by
  constructor
  · intro h
    induction h with
    | nil => rfl
    | slot hs _ ih => rw [partsFrom_slot hs, ih]
    | char hno _ ih => rw [partsFrom_char hno, ih]
  · rintro rfl
    exact cuts_partsFrom text

/-! ## What a slot becomes -/

/-- **What a slot is resolved to for a row.** -/
inductive Resolves (filters : Filters) (row : Json) : Slot → List Char → Prop where
  /-- The text of a field. -/
  | field {name : List Char} {v : Json} (hv : field? row name = some v)
      (hscalar : v.isRow = false) : Resolves filters row ⟨some name, none⟩ v.scalarText.toList
  /-- What a filter makes of a field. -/
  | filtered {name spec : List Char} {v : Json} {f : Json → String}
      (hv : field? row name = some v) (hscalar : v.isRow = false) (hspec : ¬testMark <:+: spec)
      (hf : filters.lookup (.ofList spec) = some f) :
      Resolves filters row ⟨some name, some spec⟩ (f v).toList
  /-- The branch that a field picks, of the two around the first mark of a test. -/
  | branch {name yes no : List Char} {v : Json} (hv : field? row name = some v)
      (hscalar : v.isRow = false)
      (hfirst : ∀ yes' no', yes ++ testMark ++ no = yes' ++ testMark ++ no' →
        yes.length ≤ yes'.length) :
      Resolves filters row ⟨some name, some (yes ++ testMark ++ no)⟩
        (Text.trim (if v.isTruthy then yes else no))
  /-- What a filter makes of the whole row. -/
  | whole {spec : List Char} {f : Json → String} (hf : filters.lookup (.ofList spec) = some f) :
      Resolves filters row ⟨none, some spec⟩ (f row).toList

variable {filters : Filters} {row : Json} {index : Nat} {s : Slot} {out : List Char}

theorem testMark_ne_nil : testMark ≠ [] := List.cons_ne_nil _ _

theorem occurs_testMark_iff {spec : List Char} :
    Text.occurs testMark spec = true ↔ testMark <:+: spec := by
  rw [Text.occurs, Option.isSome_iff_ne_none, Ne, Text.splitOnce?_eq_none_iff testMark_ne_nil,
    not_not]

/-- A slot that is resolved becomes what it is resolved to… -/
theorem fillFromRow_of_resolves (h : Resolves filters row s out) :
    fillFromRow filters row s = out := by
  cases h with
  | field hv hscalar => simp [fillFromRow, hv, hscalar]
  | filtered hv hscalar hspec hf =>
    have hoccurs := mt occurs_testMark_iff.mp hspec
    simp [fillFromRow, hv, hscalar, hoccurs, filtered, hf]
  | @branch name yes no v hv hscalar hfirst =>
    have hsplit : Text.splitOnce? testMark (yes ++ testMark ++ no) = some (yes, no) :=
      (Text.splitOnce?_eq_some_iff testMark_ne_nil).mpr ⟨rfl, hfirst⟩
    have hoccurs := occurs_testMark_iff.mpr ⟨yes, no, rfl⟩
    simp only [fillFromRow, hv, hscalar, hoccurs, test, hsplit, Bool.false_eq_true, if_false,
      if_true]
  | whole hf => simp [fillFromRow, filtered, hf]

/-- …and any other stays as it is. -/
theorem fillFromRow_of_not_resolves (h : ∀ out, ¬Resolves filters row s out) :
    fillFromRow filters row s = s.source := by
  obtain ⟨_ | name, spec⟩ := s
  · cases spec with
    | none => rfl
    | some spec =>
      cases hf : filters.lookup (.ofList spec) with
      | none => simp [fillFromRow, filtered, hf]
      | some f => exact absurd (.whole hf) (h _)
  · cases hv : field? row name with
    | none => simp [fillFromRow, hv]
    | some v =>
      cases hscalar : v.isRow with
      | true => simp [fillFromRow, hv, hscalar]
      | false =>
        cases spec with
        | none => exact absurd (.field hv hscalar) (h _)
        | some spec =>
          cases hsplit : Text.splitOnce? testMark spec with
          | some branches =>
            obtain ⟨rfl, hfirst⟩ := (Text.splitOnce?_eq_some_iff testMark_ne_nil).mp hsplit
            exact absurd (.branch hv hscalar hfirst) (h _)
          | none =>
            have hspec := (Text.splitOnce?_eq_none_iff testMark_ne_nil).mp hsplit
            cases hf : filters.lookup (.ofList spec) with
            | none =>
              have hoccurs := mt occurs_testMark_iff.mp hspec
              simp [fillFromRow, hv, hscalar, hoccurs, filtered, hf]
            | some f => exact absurd (.filtered hv hscalar hspec hf) (h _)

/-! ## One pass -/

/-- The slot of the row's number. -/
def rowNumber : Slot := ⟨none, some ['k', 'e', 'y']⟩

/-- **What a part becomes in one pass**: a slot is replaced once, or stays as it is. -/
inductive Becomes (filters : Filters) (row : Json) (index : Nat) : Part → List Char → Prop where
  | char (c : Char) : Becomes filters row index (.char c) [c]
  | resolved {s : Slot} {out : List Char} (h : Resolves filters row s out) :
      Becomes filters row index (.slot s) out
  | number (h : filters.lookup "key" = none) :
      Becomes filters row index (.slot rowNumber) (toString index).toList
  | kept {s : Slot} (h : ∀ out, ¬Resolves filters row s out) (hs : s ≠ rowNumber) :
      Becomes filters row index (.slot s) s.source

/-- **A template written for a row in one pass**: it is cut, and each part is written for what it
becomes. -/
def SinglePass (filters : Filters) (row : Json) (index : Nat) (template out : List Char) : Prop :=
  ∃ ps texts, Cuts template ps ∧ List.Forall₂ (Becomes filters row index) ps texts ∧
    out = texts.flatten

/-- Whether a part becomes the row's number. -/
def becomesNumber (filters : Filters) (p : Part) : Bool :=
  p == .slot rowNumber && (filters.lookup "key").isNone

/-- The text of a part before numbers are put in. -/
def partText (filters : Filters) (row : Json) : Part → List Char
  | .char c => [c]
  | .slot s => fillFromRow filters row s

/-- The text of a part, in one pass. -/
def partOnce (filters : Filters) (row : Json) (index : Nat) (p : Part) : List Char :=
  if becomesNumber filters p then (toString index).toList else partText filters row p

theorem becomesNumber_iff {p : Part} :
    becomesNumber filters p = true ↔ p = .slot rowNumber ∧ filters.lookup "key" = none := by
  rw [becomesNumber, Bool.and_eq_true, beq_iff_eq, Option.isNone_iff_eq_none]

theorem resolves_rowNumber_iff :
    Resolves filters row rowNumber out ↔
      ∃ f, filters.lookup "key" = some f ∧ (f row).toList = out := by
  constructor
  · intro h
    cases h with
    | whole hf => exact ⟨_, hf, rfl⟩
  · rintro ⟨f, hf, rfl⟩
    exact .whole hf

/-- **A part becomes one thing.** -/
theorem becomes_iff {p : Part} :
    Becomes filters row index p out ↔ out = partOnce filters row index p := by
  constructor
  · intro h
    cases h with
    | char c => rfl
    | @resolved s _ h =>
      have hnumber : ¬becomesNumber filters (.slot s) = true := by
        rw [becomesNumber_iff]
        rintro ⟨⟨⟩, hnone⟩
        obtain ⟨f, hf, -⟩ := resolves_rowNumber_iff.mp h
        cases hnone.symm.trans hf
      rw [partOnce, if_neg hnumber, partText, fillFromRow_of_resolves h]
    | number h => rw [partOnce, if_pos (becomesNumber_iff.mpr ⟨rfl, h⟩)]
    | @kept s h hs =>
      have hnumber : ¬becomesNumber filters (.slot s) = true := by
        rw [becomesNumber_iff]
        rintro ⟨⟨⟩, -⟩
        exact hs rfl
      rw [partOnce, if_neg hnumber, partText, fillFromRow_of_not_resolves h]
  · rintro rfl
    rw [partOnce]
    split
    · rename_i hnumber
      obtain ⟨rfl, hnone⟩ := becomesNumber_iff.mp hnumber
      exact .number hnone
    · rename_i hnumber
      cases p with
      | char c => exact .char c
      | slot s =>
        by_cases hresolves : ∃ out, Resolves filters row s out
        · obtain ⟨out, h⟩ := hresolves
          rw [partText, fillFromRow_of_resolves h]
          exact .resolved h
        · rw [not_exists] at hresolves
          rw [partText, fillFromRow_of_not_resolves hresolves]
          refine .kept hresolves ?_
          rintro rfl
          cases hf : filters.lookup "key" with
          | none => exact hnumber (becomesNumber_iff.mpr ⟨rfl, hf⟩)
          | some f => exact hresolves _ (resolves_rowNumber_iff.mpr ⟨f, hf, rfl⟩)

theorem forall₂_becomes_iff {ps : List Part} {texts : List (List Char)} :
    List.Forall₂ (Becomes filters row index) ps texts ↔
      texts = ps.map (partOnce filters row index) := by
  induction ps generalizing texts with
  | nil => simp
  | cons p ps ih => cases texts <;> simp [becomes_iff, ih]

/-- **One pass gives one text.** -/
theorem singlePass_iff {template : List Char} :
    SinglePass filters row index template out ↔
      out = (partsFrom 0 template).flatMap (partOnce filters row index) := by
  rw [List.flatMap_def]
  constructor
  · rintro ⟨ps, texts, hps, htexts, rfl⟩
    rw [forall₂_becomes_iff.mp htexts, cuts_iff.mp hps]
  · rintro rfl
    exact ⟨_, _, cuts_partsFrom template, forall₂_becomes_iff.mpr rfl, rfl⟩

/-! ## Numbers are put in afterwards -/

/-- **Only slots of the template become numbers**: wherever the text with its slots filled reads
`{$:key}`, there is a slot of the template that no filter fills. -/
def OnlyOwnNumbers (filters : Filters) (row : Json) (ps : List Part) : Prop :=
  ∀ before after, fillParts (fillFromRow filters row) ps = before ++ rowNumber.source ++ after →
    filters.lookup "key" = none ∧ ∃ as bs, ps = as ++ .slot rowNumber :: bs ∧
      fillParts (fillFromRow filters row) as = before

theorem fillParts_cons (p : Part) (ps : List Part) :
    fillParts (fillFromRow filters row) (p :: ps)
      = partText filters row p ++ fillParts (fillFromRow filters row) ps := by
  cases p <;> rfl

/-- What marks the row's number, by its first character and the rest, in which that does not occur
again. -/
theorem source_rowNumber :
    rowNumber.source = '\x7b' :: ['$', ':', 'k', 'e', 'y', '\x7d'] := rfl

theorem partText_rowNumber (h : filters.lookup "key" = none) :
    partText filters row (.slot rowNumber) = rowNumber.source := by
  simp [partText, fillFromRow, filtered, rowNumber, h]

/-- The digits of a number do not start as a slot does. -/
theorem exists_digits (n : Nat) : ∃ d ds, (toString n).toList = d :: ds ∧ d ≠ '\x7b' := by
  have hdigits : (toString n).toList = Nat.toDigits 10 n := by simp
  obtain ⟨d, ds, hd⟩ := List.exists_cons_of_ne_nil (Nat.toDigits_ne_nil (n := n) (b := 10))
  have hdigit : d.isDigit = true :=
    Nat.isDigit_of_mem_toDigits (by decide) (by decide) (hd ▸ List.mem_cons_self)
  refine ⟨d, ds, hdigits.trans hd, ?_⟩
  rintro rfl
  cases hdigit

/-- Behind another part, the slots that become numbers are those of the parts that follow. -/
theorem exists_behind {p : Part} {ps as bs : List Part} (h : ¬becomesNumber filters p = true)
    (hnone : filters.lookup "key" = none) (hps : p :: ps = as ++ .slot rowNumber :: bs) :
    ∃ as', as = p :: as' ∧ ps = as' ++ .slot rowNumber :: bs := by
  cases as with
  | nil => exact absurd (becomesNumber_iff.mpr ⟨(List.cons.inj hps).1, hnone⟩) h
  | cons a as =>
    obtain ⟨rfl, rfl⟩ := List.cons.inj hps
    exact ⟨as, rfl, rfl⟩

/-- A part that becomes a number is no hindrance… -/
theorem onlyOwnNumbers_number (h : filters.lookup "key" = none) (ps : List Part) :
    OnlyOwnNumbers filters row (.slot rowNumber :: ps) ↔ OnlyOwnNumbers filters row ps := by
  have hcons : ∀ ps, fillParts (fillFromRow filters row) (.slot rowNumber :: ps)
      = rowNumber.source ++ fillParts (fillFromRow filters row) ps := by
    intro ps
    rw [fillParts_cons, partText_rowNumber h]
  constructor
  · intro hall before after htext
    obtain ⟨-, as, bs, hps, has⟩ := hall (rowNumber.source ++ before) after (by
      rw [hcons, htext, List.append_assoc, List.append_assoc, List.append_assoc])
    cases as with
    | nil => cases has
    | cons a as =>
      obtain ⟨rfl, rfl⟩ := List.cons.inj hps
      rw [hcons] at has
      exact ⟨h, as, bs, rfl, List.append_cancel_left has⟩
  · intro hall before after htext
    rw [hcons] at htext
    rcases Text.piece_append_eq (by decide) htext with rfl | ⟨b, rfl, hb⟩
    · exact ⟨h, [], ps, rfl, rfl⟩
    · obtain ⟨-, as, bs, rfl, rfl⟩ := hall b after hb
      exact ⟨h, .slot rowNumber :: as, bs, rfl, hcons as⟩

/-- …and another one is none if no `{$:key}` starts in its text. -/
theorem onlyOwnNumbers_text {p : Part} (h : ¬becomesNumber filters p = true) (ps : List Part) :
    OnlyOwnNumbers filters row (p :: ps) ↔
      (∀ before after, partText filters row p ++ fillParts (fillFromRow filters row) ps
          = before ++ rowNumber.source ++ after → (partText filters row p).length ≤ before.length) ∧
        OnlyOwnNumbers filters row ps := by
  constructor
  · intro hall
    refine ⟨fun before after htext => ?_, fun before after htext => ?_⟩
    · obtain ⟨hnone, as, bs, hps, rfl⟩ := hall before after ((fillParts_cons p ps).trans htext)
      obtain ⟨as, rfl, -⟩ := exists_behind h hnone hps
      rw [fillParts_cons, List.length_append]
      exact Nat.le_add_right _ _
    · obtain ⟨hnone, as, bs, hps, has⟩ := hall (partText filters row p ++ before) after (by
        rw [fillParts_cons, htext, List.append_assoc, List.append_assoc, List.append_assoc])
      obtain ⟨as, rfl, hrest⟩ := exists_behind h hnone hps
      rw [fillParts_cons] at has
      exact ⟨hnone, as, bs, hrest, List.append_cancel_left has⟩
  · rintro ⟨hstart, hrest⟩ before after htext
    rw [fillParts_cons] at htext
    -- No `{$:key}` starts in the text of the part, so what stands before it goes beyond the part.
    have hbefore : before <+: partText filters row p ++ fillParts (fillFromRow filters row) ps :=
      ⟨rowNumber.source ++ after, by rw [htext, List.append_assoc]⟩
    obtain ⟨b, rfl⟩ := List.prefix_of_prefix_length_le (List.prefix_append _ _) hbefore
      (hstart before after htext)
    have hb : fillParts (fillFromRow filters row) ps = b ++ rowNumber.source ++ after := by
      rw [List.append_assoc, List.append_assoc] at htext
      rw [List.append_cancel_left htext, List.append_assoc]
    obtain ⟨hnone, as, bs, rfl, rfl⟩ := hrest b after hb
    exact ⟨hnone, p :: as, bs, rfl, fillParts_cons p as⟩

/-- **Putting numbers in afterwards is one pass exactly if only slots of the template become
numbers.** -/
theorem flatMap_partOnce_iff (ps : List Part) :
    ps.flatMap (partOnce filters row index)
        = Text.replaceFrom rowNumber.source (toString index).toList 0
            (fillParts (fillFromRow filters row) ps) ↔
      OnlyOwnNumbers filters row ps := by
  obtain ⟨d, ds, hdigits, hd⟩ := exists_digits index
  induction ps with
  | nil =>
    refine iff_of_true rfl fun before after htext => ?_
    simp [fillParts, source_rowNumber] at htext
  | cons p ps ih =>
    rw [List.flatMap_cons, fillParts_cons, partOnce]
    split
    · rename_i hnumber
      obtain ⟨rfl, hnone⟩ := becomesNumber_iff.mp hnumber
      rw [partText_rowNumber hnone, onlyOwnNumbers_number hnone, ← ih, source_rowNumber,
        Text.replaceFrom_piece, List.append_right_inj]
    · rename_i hnumber
      rw [onlyOwnNumbers_text hnumber, ← ih, hdigits, source_rowNumber]
      exact Text.append_eq_replaceFrom_iff hd _ _ _

/-- **A row is written in one pass exactly if only slots of the template become numbers.**  One pass
gives one text, for every template, row, number and filters; the text of a row is that text if and
only if no `{$:key}` comes of a field, of a filter, of a slot that is kept, or of what meets where
they are joined. -/
theorem row_written_in_one_pass_iff (template : String) (filters : Filters) (row : Json)
    (index : Nat) :
    (∃! out, SinglePass filters row index template.toList out) ∧
      (SinglePass filters row index template.toList
          (renderRow template filters row index).toList ↔
        OnlyOwnNumbers filters row (parts template)) := by
  refine ⟨⟨_, singlePass_iff.mpr rfl, fun out hout => singlePass_iff.mp hout⟩, ?_⟩
  have hrender : (renderRow template filters row index).toList
      = Text.replaceFrom rowNumber.source (toString index).toList 0
          (fillParts (fillFromRow filters row) (parts template)) := by
    simp only [renderRow, Text.replace, String.toList_ofList]
    rfl
  rw [singlePass_iff, hrender, eq_comm]
  exact flatMap_partOnce_iff (parts template)

/-- A field whose text reads `{$:key}`: one pass gives that text, but the row's number is written in
its place. -/
theorem field_text_read_as_slot :
    let row : Json := .obj [("a", .str "\x7b$:key\x7d")]
    SinglePass [] row 0 "\x7b$a\x7d".toList "\x7b$:key\x7d".toList ∧
      renderRow "\x7b$a\x7d" [] row 0 = "0" ∧
      ¬SinglePass [] row 0 "\x7b$a\x7d".toList (renderRow "\x7b$a\x7d" [] row 0).toList := by
  intro row
  refine ⟨singlePass_iff.mpr ?_, ?_, fun h => ?_⟩
  · decide +kernel
  · decide +kernel
  · revert h
    rw [singlePass_iff]
    decide +kernel

end SqlShorthand.Template
