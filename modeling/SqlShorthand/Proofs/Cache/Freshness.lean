import Mathlib
import SqlShorthand.Cache.Basic

/-!
# Proofs/Cache/Freshness — fresh means in time

An entry is in time if it never expires, or if now is no later than its writing and its age together
(`Expiry.Allows`), over numbers of any size.  Freshness is found another way: the age is taken off
the time, in words of 64 bits, and what would lie before all times that can be told is no cutoff
(`Clock.cutoff?`).

The two agree since no entry was written before all times that can be told (`fresh_iff_allows`),
and `has_iff_in_time` says so of a look at an entry, whatever the store.  That what is stale stays
stale, and what is fresh stays fresh under a longer expiry, is then a matter of one inequality.
-/

namespace SqlShorthand

/-! ## Times -/

/-- The earliest time that can be told. -/
def Clock.earliest : Int := -9223372036854775808

/-- A clock that starts at a time that can be told. -/
def Clock.Tells : Clock → Prop
  | .fixed time => earliest ≤ time
  | .manual start _ => earliest ≤ start

instance (c : Clock) : Decidable c.Tells :=
  match c with
  | .fixed time => inferInstanceAs (Decidable (Clock.earliest ≤ time))
  | .manual start _ => inferInstanceAs (Decidable (Clock.earliest ≤ start))

theorem Clock.Tells.earliest_le_now {c : Clock} (h : c.Tells) : earliest ≤ c.now := by
  cases c with
  | fixed time => exact h
  | manual start elapsed => exact Int.le_trans h (Int.le_add_of_nonneg_right (Int.natCast_nonneg _))

theorem Clock.Tells.advance {c : Clock} (h : c.Tells) (seconds : UInt64) :
    (c.advance seconds).Tells := by
  cases c <;> exact h

/-- **An entry is in time**: it never expires, or its age is not over. -/
def Expiry.Allows (e : Expiry) (now written : Int) : Prop :=
  match e with
  | .never => True
  | .after age => now ≤ written + age

instance (e : Expiry) (now written : Int) : Decidable (e.Allows now written) :=
  match e with
  | .never => inferInstanceAs (Decidable True)
  | .after age => inferInstanceAs (Decidable (now ≤ written + age))

/-- An entry is found fresh if it is in time: a cutoff that cannot be told lies before it. -/
theorem Expiry.fresh_iff_allows {e : Expiry} {now written : Int}
    (hwritten : Clock.earliest ≤ written) : e.fresh now written = true ↔ e.Allows now written := by
  cases e with
  | never => exact ⟨fun _ => trivial, fun _ => rfl⟩
  | after age =>
    simp only [fresh, Bool.or_eq_true, decide_eq_true_eq]
    simp only [Allows, Clock.earliest] at *
    omega

/-! ## Later, and longer -/

/-- **What is in time was so before.** -/
theorem Expiry.Allows.of_le {e : Expiry} {now now' written : Int} (h : e.Allows now' written)
    (hle : now ≤ now') : e.Allows now written := by
  cases e with
  | never => trivial
  | after age => exact hle.trans h

/-- An expiry that lets entries live no longer than another does. -/
def Expiry.AtMost : Expiry → Expiry → Prop
  | _, .never => True
  | .never, .after _ => False
  | .after age, .after age' => age ≤ age'

instance (e e' : Expiry) : Decidable (e.AtMost e') :=
  match e, e' with
  | _, .never => inferInstanceAs (Decidable True)
  | .never, .after _ => inferInstanceAs (Decidable False)
  | .after age, .after age' => inferInstanceAs (Decidable (age ≤ age'))

/-- **What is in time is so under a longer expiry.** -/
theorem Expiry.Allows.of_atMost {e e' : Expiry} {now written : Int} (h : e.Allows now written)
    (hle : e.AtMost e') : e'.Allows now written := by
  cases e' with
  | never => trivial
  | after age' =>
    cases e with
    | never => exact hle.elim
    | after age =>
      rw [AtMost] at hle
      rw [Allows] at h ⊢
      omega

/-! ## In words of 64 bits -/

/-- **The cutoff**: the time an age before `now`, unless that lies before all times that can be
told.  A difference that wraps around comes out later than `now`. -/
def Clock.cutoff? (now : Int64) (age : UInt64) : Option Int64 :=
  if now - age.toInt64 ≤ now then some (now - age.toInt64) else none

/-- An expiry of some seconds that fit a word, or of none. -/
def Expiry.ofSeconds : Option UInt64 → Expiry
  | none => .never
  | some age => .after age.toNat

/-- **Freshness in words**: an entry is fresh if it was not written before the cutoff, and if there
is none. -/
def Expiry.freshInWords (seconds : Option UInt64) (now written : Int64) : Bool :=
  match seconds with
  | none => true
  | some age =>
    match Clock.cutoff? now age with
    | some cutoff => cutoff ≤ written
    | none => true

/-- The difference of a time and an age, in words: exact, or one turn too late. -/
theorem Clock.toInt_sub_age (now : Int64) (age : UInt64) :
    (now - age.toInt64).toInt =
      if now.toInt - age.toNat < earliest then now.toInt - age.toNat + 2 ^ 64
      else now.toInt - age.toNat := by
  have hage : age.toInt64.toInt = (age.toNat : Int).bmod (2 ^ 64) :=
    BitVec.toInt_eq_toNat_bmod age.toBitVec
  have hnow := now.toInt_lt
  have hnow' := now.le_toInt
  have hlt := age.toNat_lt
  rw [Int64.toInt_sub, hage, Int.sub_bmod_bmod, Int.bmod_def]
  simp only [earliest]
  omega

/-- The cutoff is exact, where there is one… -/
theorem Clock.toInt_of_cutoff? {now cutoff : Int64} {age : UInt64}
    (h : cutoff? now age = some cutoff) : cutoff.toInt = now.toInt - age.toNat := by
  have hsub := toInt_sub_age now age
  have hlt := age.toNat_lt
  rw [cutoff?] at h
  split at h
  · rename_i hle
    obtain rfl := Option.some.inj h
    rw [Int64.le_iff_toInt_le] at hle
    omega
  · cases h

/-- …and there is none exactly if it could not be told. -/
theorem Clock.cutoff?_eq_none_iff {now : Int64} {age : UInt64} :
    cutoff? now age = none ↔ now.toInt - age.toNat < earliest := by
  have hsub := toInt_sub_age now age
  have hlt := age.toNat_lt
  rw [cutoff?, ite_eq_right_iff, Int64.le_iff_toInt_le]
  simp only [reduceCtorEq, imp_false, not_le]
  omega

/-- **Freshness in words is being in time**, wherever in their range the times and the age lie. -/
theorem Expiry.freshInWords_iff_allows {seconds : Option UInt64} {now written : Int64} :
    freshInWords seconds now written = true ↔
      (ofSeconds seconds).Allows now.toInt written.toInt := by
  cases seconds with
  | none => exact ⟨fun _ => trivial, fun _ => rfl⟩
  | some age =>
    have hwritten := written.le_toInt
    rw [freshInWords, ofSeconds, Allows]
    cases hcutoff : Clock.cutoff? now age with
    | some cutoff =>
      have hexact := Clock.toInt_of_cutoff? hcutoff
      rw [decide_eq_true_iff, Int64.le_iff_toInt_le]
      omega
    | none =>
      have hbefore := Clock.cutoff?_eq_none_iff.mp hcutoff
      rw [Clock.earliest] at hbefore
      exact iff_of_true rfl (by omega)

/-! ## A look at an entry -/

namespace Cache

variable {σ : Type} [Store σ] {cache : Cache σ} {key : String} {now : Int64}
  {written : Option Int64} {seconds : Option UInt64}

/-- **A look at an entry**: it is found if it was written and is fresh, and what was set for one
query is used up. -/
theorem has_eq (cache : Cache σ) (key : String) :
    cache.has key
      = ((Store.writtenAt cache.store key).1.any (cache.expire.fresh cache.clock.now),
          { cache with store := (Store.writtenAt cache.store key).2 }.reset) := by
  rw [has]
  obtain ⟨written, store⟩ := Store.writtenAt cache.store key
  cases written <;> rfl

/-- **What a look at an entry goes by, in words**: the time, when the entry was written if it was,
and for how long it lives. -/
structure LooksAt (cache : Cache σ) (key : String) (now : Int64) (written : Option Int64)
    (seconds : Option UInt64) : Prop where
  now : cache.clock.now = now.toInt
  written : (Store.writtenAt cache.store key).1 = written.map Int64.toInt
  expire : cache.expire = .ofSeconds seconds

/-- An entry is found exactly if it was written and is in time… -/
theorem LooksAt.has_iff_allows (h : LooksAt cache key now written seconds) :
    (cache.has key).1 = true ↔ ∃ time, written = some time ∧
      (Expiry.ofSeconds seconds).Allows now.toInt time.toInt := by
  rw [has_eq, h.written, h.now, h.expire]
  cases written with
  | none => simp
  | some time => simp [Expiry.fresh_iff_allows (time.le_toInt : Clock.earliest ≤ _)]

/-- …and so it is in words. -/
theorem LooksAt.has_eq_freshInWords (h : LooksAt cache key now written seconds) :
    (cache.has key).1 = written.any (Expiry.freshInWords seconds now) := by
  rw [Bool.eq_iff_iff, h.has_iff_allows]
  simp [Option.any_eq_true, Expiry.freshInWords_iff_allows]

/-- **Freshness is an exact comparison**: of the time now with the time of writing and the age. -/
structure ExactlyFresh (cache : Cache σ) (key : String) (now : Int64) (written : Option Int64)
    (seconds : Option UInt64) : Prop where
  /-- An entry is found exactly if it was written and is in time, over numbers of any size… -/
  found_iff : (cache.has key).1 = true ↔ ∃ time, written = some time ∧
    (Expiry.ofSeconds seconds).Allows now.toInt time.toInt
  /-- …and so it is by the cutoff in words… -/
  in_words : (cache.has key).1 = written.any (Expiry.freshInWords seconds now)
  /-- …which is exact, also before 1970… -/
  cutoff : ∀ age cutoff, Clock.cutoff? now age = some cutoff →
    cutoff.toInt = now.toInt - age.toNat
  /-- …and missing only where it would lie before all times that can be told. -/
  no_cutoff : ∀ age, Clock.cutoff? now age = none ↔ now.toInt - age.toNat < Clock.earliest
  /-- A stale entry is stale at every later time… -/
  stays_stale : ∀ (later : Cache σ) (now' : Int64), LooksAt later key now' written seconds →
    now ≤ now' → (cache.has key).1 = false → (later.has key).1 = false
  /-- …and a fresh one is fresh under every longer expiry. -/
  stays_fresh : ∀ (longer : Cache σ) (seconds' : Option UInt64),
    LooksAt longer key now written seconds' →
    (Expiry.ofSeconds seconds).AtMost (.ofSeconds seconds') →
    (cache.has key).1 = true → (longer.has key).1 = true

/-- **Fresh means in time**, for every time now, every time of writing and every number of seconds
that fit their words, and for every store. -/
theorem has_iff_in_time (h : LooksAt cache key now written seconds) :
    ExactlyFresh cache key now written seconds where
  found_iff := h.has_iff_allows
  in_words := h.has_eq_freshInWords
  cutoff := fun _ _ => Clock.toInt_of_cutoff?
  no_cutoff := fun _ => Clock.cutoff?_eq_none_iff
  stays_stale := by
    intro later now' hlater hle hstale
    rw [Bool.eq_false_iff, Ne, h.has_iff_allows] at hstale
    rw [Bool.eq_false_iff, Ne, hlater.has_iff_allows]
    rintro ⟨time, htime, hallows⟩
    exact hstale ⟨time, htime, hallows.of_le (Int64.le_iff_toInt_le.mp hle)⟩
  stays_fresh := by
    intro longer seconds' hlonger hle hfresh
    obtain ⟨time, htime, hallows⟩ := h.has_iff_allows.mp hfresh
    exact hlonger.has_iff_allows.mpr ⟨time, htime, hallows.of_atMost hle⟩

/-- An entry of the earliest time, at the latest: it is in time under the longest expiry, and stale
under one that is a second shorter.  At the earliest time itself there is no cutoff. -/
theorem has_iff_in_time_ends :
    let store : MemoryStore := ⟨[("k", -9223372036854775808, .arr [])]⟩
    let latest : Cache MemoryStore :=
      { store, clock := .fixed 9223372036854775807, expire := .after 18446744073709551615 }
    (latest.has "k").1 = true ∧
      ({ latest with expire := .after 18446744073709551614 }.has "k").1 = false ∧
      ({ latest with clock := .fixed (-9223372036854775808) }.has "k").1 = true ∧
      Clock.cutoff? Int64.minValue 18446744073709551615 = none := by
  intro store latest
  have hlongest : LooksAt latest "k" Int64.maxValue (some Int64.minValue)
      (some 18446744073709551615) := ⟨by decide, by decide, by decide⟩
  have hshorter : LooksAt { latest with expire := .after 18446744073709551614 } "k" Int64.maxValue
      (some Int64.minValue) (some 18446744073709551614) := ⟨by decide, by decide, by decide⟩
  have hearliest : LooksAt { latest with clock := .fixed (-9223372036854775808) } "k"
      Int64.minValue (some Int64.minValue) (some 18446744073709551615) :=
    ⟨by decide, by decide, by decide⟩
  refine ⟨(has_iff_in_time hlongest).found_iff.mpr ⟨_, rfl, by decide⟩, ?_,
    (has_iff_in_time hearliest).found_iff.mpr ⟨_, rfl, by decide⟩,
    ((has_iff_in_time hearliest).no_cutoff _).mpr (by decide)⟩
  rw [(has_iff_in_time hshorter).in_words]
  decide

end Cache

end SqlShorthand
