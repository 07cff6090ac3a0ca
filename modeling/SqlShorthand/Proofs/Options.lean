import SqlShorthand.Options

/-!
# Proofs/Options — what the words of a command come to

A word sets a flag or becomes a keyword, and neither sees the other:

* `has_resolve_iff` — a flag is set exactly if a word spells its name, wherever that word stands;
* `modifiers_resolve` — the keywords are the words that name none, in their order.

So dropping the words of one flag takes that flag away, and nothing else
(`has_resolve_dropFlag`, `modifiers_resolve_dropFlag`).

Six flags fit a byte, one bit each, and the byte is as good as the record: setting a flag is an or
with its bit (`Flags.byte_insert`), asking for one an and (`Flags.contains_eq_byte`), none is set in
the byte zero alone (`Flags.toList_eq_nil_iff`), and equal bytes are equal sets
(`Flags.byte_injective`).  The words of a command then give the byte that they
give one by one, starting from zero (`byte_resolve`).
-/

namespace SqlShorthand

namespace Flag

/-- No two flags have the same name but for its case. -/
theorem lowerAscii_name_injective {f g : Flag}
    (h : Text.lowerAscii f.name = Text.lowerAscii g.name) : f = g := by
  revert h
  cases f <;> cases g <;> decide

theorem mem_all (f : Flag) : f ∈ all := by cases f <;> decide

theorem ofToken?_empty : ofToken? "" = none := by decide

/-- **A word names a flag** exactly if it spells its name, in any case. -/
theorem ofToken?_eq_some_iff {token : String} {f : Flag} :
    ofToken? token = some f ↔ Text.sameIgnoringCase f.name token = true := by
  have hspells : ∀ g, ofToken? token = some g → Text.sameIgnoringCase g.name token = true :=
    fun g => List.find?_some (p := fun f : Flag => Text.sameIgnoringCase f.name token)
  refine ⟨hspells f, fun h => ?_⟩
  obtain ⟨g, hg⟩ := Option.isSome_iff_exists.mp
    (List.find?_isSome (p := fun f : Flag => Text.sameIgnoringCase f.name token).mpr
      ⟨f, mem_all f, h⟩)
  have hname : Text.lowerAscii g.name = Text.lowerAscii f.name :=
    (eq_of_beq (hspells g hg)).trans (eq_of_beq h).symm
  rw [ofToken?, hg, lowerAscii_name_injective hname]

/-! ## Flags in a byte

Of the byte of some flags only this matters: a bit is set exactly if its flag is among them.  So the
byte does not change with their order or number. -/

/-- The bit of a flag. -/
def bit : Flag → UInt8
  | array => 0x01
  | cache => 0x02
  | first => 0x04
  | model => 0x08
  | pagination => 0x10
  | query => 0x20

/-- The bits of some flags, in one byte. -/
def bits (flags : List Flag) : UInt8 := flags.foldr (fun f b => f.bit ||| b) 0

variable {f g : Flag} {flags flags' : List Flag}

/-- No two flags share a bit. -/
theorem bit_and_bit_ne_zero_iff : f.bit &&& g.bit ≠ 0 ↔ f = g := by
  cases f <;> cases g <;> decide

theorem or_and_ne_zero_iff {a b c : UInt8} : (a ||| b) &&& c ≠ 0 ↔ a &&& c ≠ 0 ∨ b &&& c ≠ 0 := by
  have hdistrib : (a ||| b) &&& c = a &&& c ||| b &&& c := by
    refine UInt8.toBitVec_inj.mp (BitVec.eq_of_getLsbD_eq fun i _ => ?_)
    simp [Bool.and_or_distrib_right]
  rw [hdistrib, Ne, UInt8.or_eq_zero_iff, Decidable.not_and_iff_not_or_not]

theorem bits_cons (f : Flag) (flags : List Flag) : bits (f :: flags) = f.bit ||| bits flags := rfl

/-- **A bit is set exactly if its flag is there.** -/
theorem bits_and_bit_ne_zero_iff : bits flags &&& f.bit ≠ 0 ↔ f ∈ flags := by
  induction flags with
  | nil => exact iff_of_false (fun h => h UInt8.zero_and) List.not_mem_nil
  | cons g flags ih =>
    rw [bits_cons, or_and_ne_zero_iff, bit_and_bit_ne_zero_iff, ih, List.mem_cons, eq_comm]

/-- A flag that is there already adds nothing. -/
theorem bit_or_bits_of_mem (h : f ∈ flags) : f.bit ||| bits flags = bits flags := by
  induction flags with
  | nil => cases h
  | cons g flags ih =>
    rw [bits_cons, ← UInt8.or_assoc]
    rcases List.mem_cons.mp h with rfl | h
    · rw [UInt8.or_self]
    · rw [UInt8.or_comm f.bit, UInt8.or_assoc, ih h]

theorem bits_or_bits_of_subset (h : flags ⊆ flags') : bits flags ||| bits flags' = bits flags' := by
  induction flags with
  | nil => exact UInt8.zero_or
  | cons f flags ih =>
    rw [bits_cons, UInt8.or_assoc, ih (List.subset_of_cons_subset h),
      bit_or_bits_of_mem (h List.mem_cons_self)]

/-- **The same flags have the same bits.** -/
theorem bits_congr (h : ∀ f, f ∈ flags ↔ f ∈ flags') : bits flags = bits flags' := by
  have hle := bits_or_bits_of_subset fun f hf => (h f).mp hf
  have hge := bits_or_bits_of_subset fun f hf => (h f).mpr hf
  rw [← hge, UInt8.or_comm, hle]

end Flag

namespace Flags

variable {s t : Flags} {f : Flag}

/-- The flags that are set are all there is to a set of flags. -/
theorem eq_of_contains (h : ∀ f, s.contains f = t.contains f) : s = t := by
  have harray := h .array
  have hcache := h .cache
  have hfirst := h .first
  have hmodel := h .model
  have hpagination := h .pagination
  have hquery := h .query
  cases s
  cases t
  simp_all only [contains]

theorem mem_toList : f ∈ s.toList ↔ s.contains f = true := by
  rw [toList, List.mem_filter, and_iff_right f.mem_all]

/-- **The byte of a set of flags**: the bits of those that are set. -/
def byte (s : Flags) : UInt8 := Flag.bits s.toList

/-- **A flag is set exactly if its bit is.** -/
theorem contains_eq_byte (s : Flags) (f : Flag) : s.contains f = (s.byte &&& f.bit != 0) := by
  rw [Bool.eq_iff_iff, bne_iff_ne, byte, Flag.bits_and_bit_ne_zero_iff, mem_toList]

/-- No flag is set exactly if no bit is. -/
theorem toList_eq_nil_iff : s.toList = [] ↔ s.byte = 0 := by
  constructor
  · intro h
    rw [byte, h]
    rfl
  · intro h
    refine List.eq_nil_iff_forall_not_mem.mpr fun f hf => ?_
    rw [mem_toList, contains_eq_byte, h, UInt8.zero_and] at hf
    exact absurd hf (by decide)

/-- **Setting a flag sets its bit**, and no other. -/
theorem byte_insert (s : Flags) (f : Flag) : (s.insert f).byte = s.byte ||| f.bit := by
  have hmem : ∀ g, g ∈ (s.insert f).toList ↔ g ∈ f :: s.toList := by
    intro g
    rw [mem_toList, contains_insert, Bool.or_eq_true, beq_iff_eq, List.mem_cons, mem_toList,
      eq_comm]
  rw [byte, Flag.bits_congr hmem, Flag.bits_cons, UInt8.or_comm, byte]

/-- **A set of flags is its byte.** -/
theorem byte_injective : Function.Injective byte := by
  intro s t h
  refine eq_of_contains fun f => ?_
  rw [contains_eq_byte, contains_eq_byte, h]

end Flags

namespace Options

/-- A word that goes into the statement. -/
def isModifier (token : String) : Bool := !token.isEmpty && (Flag.ofToken? token).isNone

/-! ## One word -/

/-- A word sets the flag that it names. -/
theorem flags_add (o : Options) (token : String) :
    (o.add token).flags = (Flag.ofToken? token).elim o.flags o.flags.insert := by
  rw [add]
  split
  · rename_i hempty
    obtain rfl : token = "" := by simpa using hempty
    rw [Flag.ofToken?_empty]
    rfl
  · cases Flag.ofToken? token <;> rfl

theorem has_add (o : Options) (token : String) (f : Flag) :
    (o.add token).has f = (o.has f || Flag.ofToken? token == some f) := by
  rw [has, flags_add]
  cases Flag.ofToken? token with
  | none => exact (Bool.or_false _).symm
  | some g => exact (Flags.contains_insert o.flags g f).trans (Bool.or_comm _ _)

theorem modifiers_add (o : Options) (token : String) :
    (o.add token).modifiers = o.modifiers ++ ([token].filter isModifier).map Text.upper := by
  rw [add]
  split
  · rename_i hempty
    simp [isModifier, hempty]
  · rename_i hne
    cases htoken : Flag.ofToken? token <;> simp [isModifier, hne, htoken]

/-! ## All words -/

/-- **A flag is set exactly if a word names it.** -/
theorem has_resolve (tokens : List String) (f : Flag) :
    (resolve tokens).has f = tokens.any fun token => Flag.ofToken? token == some f := by
  have hfold : ∀ o : Options, (tokens.foldl add o).has f
      = (o.has f || tokens.any fun token => Flag.ofToken? token == some f) := by
    induction tokens with
    | nil => exact fun o => (Bool.or_false _).symm
    | cons token tokens ih =>
      intro o
      rw [List.foldl_cons, ih, has_add, List.any_cons, Bool.or_assoc]
  exact (hfold {}).trans (by cases f <;> rfl)

/-- **A flag is set exactly if a word spells its name**, in any case. -/
theorem has_resolve_iff {tokens : List String} {f : Flag} :
    (resolve tokens).has f = true ↔
      ∃ token ∈ tokens, Text.sameIgnoringCase f.name token = true := by
  rw [has_resolve, List.any_eq_true]
  refine exists_congr fun token => and_congr_right fun _ => ?_
  rw [beq_iff_eq, Flag.ofToken?_eq_some_iff]

/-- **The keywords are the words that name no flag**, in their order. -/
theorem modifiers_resolve (tokens : List String) :
    (resolve tokens).modifiers = (tokens.filter isModifier).map Text.upper := by
  have hfold : ∀ o : Options, (tokens.foldl add o).modifiers
      = o.modifiers ++ (tokens.filter isModifier).map Text.upper := by
    induction tokens with
    | nil => exact fun o => (List.append_nil _).symm
    | cons token tokens ih =>
      intro o
      rw [List.foldl_cons, ih, modifiers_add, List.append_assoc, ← List.map_append,
        ← List.filter_append, List.singleton_append]
  exact hfold {}

/-- **The words give the byte of the flags that they name**, one after the other. -/
theorem byte_resolve (tokens : List String) :
    (resolve tokens).flags.byte
      = (tokens.filterMap Flag.ofToken?).foldl (fun b f => b ||| f.bit) 0 := by
  have hfold : ∀ o : Options, (tokens.foldl add o).flags.byte
      = (tokens.filterMap Flag.ofToken?).foldl (fun b f => b ||| f.bit) o.flags.byte := by
    induction tokens with
    | nil => exact fun o => rfl
    | cons token tokens ih =>
      intro o
      rw [List.foldl_cons, ih, flags_add, List.filterMap_cons]
      cases Flag.ofToken? token with
      | none => rfl
      | some f => rw [Option.elim_some, Flags.byte_insert, List.foldl_cons]
  exact hfold {}

/-! ## Without a flag -/

/-- The words without those that name a flag. -/
def dropFlag (f : Flag) (tokens : List String) : List String :=
  tokens.filter fun token => Flag.ofToken? token != some f

/-- Dropping a flag's words takes that flag away… -/
theorem has_resolve_dropFlag (f g : Flag) (tokens : List String) :
    (resolve (dropFlag f tokens)).has g = ((resolve tokens).has g && g != f) := by
  rw [has_resolve, has_resolve, dropFlag, List.any_filter]
  by_cases hgf : g = f
  · subst hgf
    simp
  · have hne : ∀ token, (Flag.ofToken? token != some f && Flag.ofToken? token == some g)
        = (Flag.ofToken? token == some g) := by
      intro token
      by_cases htoken : Flag.ofToken? token = some g
      · simp [htoken, hgf]
      · simp [htoken]
    simp [hne, hgf]

/-- …and leaves the keywords alone. -/
theorem modifiers_resolve_dropFlag (f : Flag) (tokens : List String) :
    (resolve (dropFlag f tokens)).modifiers = (resolve tokens).modifiers := by
  rw [modifiers_resolve, modifiers_resolve, dropFlag, List.filter_filter]
  refine congrArg (List.map Text.upper) (List.filter_congr fun token _ => ?_)
  rw [isModifier]
  cases Flag.ofToken? token <;> simp

end Options

end SqlShorthand
