import Mathlib
import SqlShorthand.Settings.Apply
import SqlShorthand.Proofs.Paging.Walk

/-!
# Proofs/Paging/Numbers — the numbers of the paging, and what is computed from them

The rows per page and the current page are offered from many sides: by setters, by the fields of a
record, by a section of a settings file.  Whoever offers a number, it is taken if it is at least one
and else nothing happens (`Offer`), so each number is the one that was taken last (`Takes`).  Hence
both stay within what a word with a sign holds (`Takes.valid`).

That is all that the arithmetic of a page needs.  In words of 64 bits no difference falls below zero
and no sum overflows, and only the offset may saturate (`limitInWords?_eq`,
`neighboursInWords?_eq`).
-/

namespace SqlShorthand.Paging

variable {p q r : Paging}

/-! ## Offers -/

/-- The numbers of the paging. -/
inductive Number where
  | rpp
  | page
  deriving Repr, DecidableEq

def get (p : Paging) : Number → Nat
  | .rpp => p.rpp
  | .page => p.page

def put (p : Paging) (k : Number) (n : Nat) : Paging :=
  match k with
  | .rpp => { p with rpp := n }
  | .page => { p with page := n }

theorem get_put (p : Paging) (k k' : Number) (n : Nat) :
    (p.put k n).get k' = if k = k' then n else p.get k' := by
  cases k <;> cases k' <;> rfl

/-- **A value that is offered for a number**: a whole number, if the value stands for one. -/
structure Offer where
  number : Number
  value : Option Int64
  deriving DecidableEq

/-- A whole number is taken if it is at least one. -/
def accepted? (n : Int64) : Option Nat := if 1 ≤ n.toInt then some n.toInt.toNat else none

/-- What an offer makes of a number. -/
def Offer.taken? (o : Offer) (k : Number) : Option Nat :=
  if o.number = k then o.value.bind accepted? else none

/-- **The number that was taken last**, or the one at the start. -/
def lastTaken (k : Number) (start : Nat) (offers : List Offer) : Nat :=
  (offers.filterMap (·.taken? k)).getLast?.getD start

/-- **The paging takes offers**: each of its numbers is the one that was taken last. -/
def Takes (p q : Paging) (offers : List Offer) : Prop :=
  ∀ k, q.get k = lastTaken k (p.get k) offers

theorem Takes.refl (p : Paging) : Takes p p [] := fun _ => rfl

theorem Takes.trans {os os' : List Offer} (h : Takes p q os) (h' : Takes q r os') :
    Takes p r (os ++ os') := by
  intro k
  rw [h' k, h k, lastTaken, lastTaken, lastTaken, List.filterMap_append, List.getLast?_append]
  cases (os'.filterMap (·.taken? k)).getLast? <;> rfl

/-- **An offer that is refused leaves its number**, and every offer leaves the other one. -/
theorem Takes.get_eq {os : List Offer} (h : Takes p q os) {k : Number}
    (hrefused : ∀ o ∈ os, o.taken? k = none) : q.get k = p.get k := by
  rw [h k, lastTaken, List.filterMap_eq_nil_iff.mpr hrefused]
  rfl

theorem accepted?_bounds {n : Int64} {k : Nat} (h : accepted? n = some k) : 1 ≤ k ∧ k < 2 ^ 63 := by
  have hlt := n.toInt_lt
  rw [accepted?] at h
  split at h <;> cases h
  omega

/-- A word that is taken is the same without its sign. -/
theorem toNat_toUInt64_of_accepted? {n : Int64} {k : Nat} (h : accepted? n = some k) :
    n.toUInt64.toNat = k := by
  have hword : n.toInt = (n.toUInt64.toNat : Int).bmod (2 ^ 64) :=
    BitVec.toInt_eq_toNat_bmod n.toBitVec
  have hlt := n.toUInt64.toNat_lt
  rw [Int.bmod_def] at hword
  rw [accepted?] at h
  split at h <;> cases h
  omega

/-- A number that was taken last, or the one at the start. -/
theorem lastTaken_mem (k : Number) (start : Nat) (offers : List Offer) :
    lastTaken k start offers = start ∨ ∃ n, accepted? n = some (lastTaken k start offers) := by
  rw [lastTaken]
  cases hlast : (offers.filterMap (·.taken? k)).getLast? with
  | none => exact .inl rfl
  | some m =>
    obtain ⟨o, -, ho⟩ := List.mem_filterMap.mp (List.mem_of_getLast? hlast)
    rw [Offer.taken?] at ho
    split at ho
    · obtain ⟨n, -, hn⟩ := Option.bind_eq_some_iff.mp ho
      exact .inr ⟨n, hn⟩
    · cases ho

theorem valid_iff : p.Valid ↔ ∀ k, 1 ≤ p.get k ∧ p.get k < 2 ^ 63 :=
  ⟨fun h k => by cases k <;> [exact ⟨h.rpp_pos, h.rpp_lt⟩; exact ⟨h.page_pos, h.page_lt⟩],
    fun h => ⟨(h .rpp).1, (h .rpp).2, (h .page).1, (h .page).2⟩⟩

/-- **Valid numbers stay valid**, whatever is offered. -/
theorem Takes.valid {os : List Offer} (h : Takes p q os) (hp : p.Valid) : q.Valid := by
  rw [valid_iff] at hp ⊢
  intro k
  rw [h k]
  rcases lastTaken_mem k (p.get k) os with hstart | ⟨n, hn⟩
  · rw [hstart]
    exact hp k
  · exact accepted?_bounds hn

/-! ## Everyone makes offers -/

/-- The paging after an offer. -/
def offer (p : Paging) (o : Offer) : Paging := (o.value.bind accepted?).elim p (p.put o.number)

theorem takes_offer (p : Paging) (o : Offer) : Takes p (p.offer o) [o] := by
  intro k
  rw [offer, lastTaken, List.filterMap_cons, List.filterMap_nil, Offer.taken?]
  cases o.value.bind accepted? with
  | none => split <;> simp_all
  | some n =>
    rw [Option.elim_some, get_put]
    split <;> rfl

/-- Labels are no numbers. -/
theorem Takes.withLabels {os : List Offer} (h : Takes p q os) (next prev : Option String) :
    Takes p { q with nextLabel := next, prevLabel := prev } os := by
  intro k
  rw [← h k]
  cases k <;> rfl

theorem accepted?_eq (n : Int64) : accepted? n = if n < 1 then none else some n.toInt.toNat := by
  have hlt : n < 1 ↔ ¬1 ≤ n.toInt := by
    rw [Int64.lt_iff_toInt_lt, not_le]
    rfl
  rw [accepted?]
  split <;> split <;> tauto

/-- **A setter takes an offer**, and tells whether it did. -/
theorem setRpp_eq (p : Paging) (n : Int64) :
    p.setRpp n = ((accepted? n).isSome, p.offer ⟨.rpp, some n⟩) := by
  rw [setRpp, offer, Option.bind_some, accepted?_eq]
  split <;> rfl

theorem setPage_eq (p : Paging) (n : Int64) :
    p.setPage n = ((accepted? n).isSome, p.offer ⟨.page, some n⟩) := by
  rw [setPage, offer, Option.bind_some, accepted?_eq]
  split <;> rfl

/-- A setter that is given a value takes an offer, also where that is no number. -/
theorem takes_setter {k : Number} {set : Paging → Int64 → Bool × Paging}
    (hset : ∀ p n, set p n = ((accepted? n).isSome, p.offer ⟨k, some n⟩)) (p : Paging)
    (n : Option Int64) :
    Takes p (match n with
      | some n => (set p n).2
      | none => p) [⟨k, n⟩] := by
  have hoffer := takes_offer p ⟨k, n⟩
  cases n with
  | none => exact hoffer
  | some n =>
    dsimp only
    rwa [hset]

/-- The offer that a field makes, if its name is that of a number. -/
def offerOf? : String × Value → Option Offer
  | (name, v) =>
    if name == "rpp" then some ⟨.rpp, v.asInt?⟩
    else if name == "page" then some ⟨.page, v.asInt?⟩
    else none

theorem takes_applyField (p : Paging) (name : String) (v : Value) :
    Takes p (p.applyField name v) (offerOf? (name, v)).toList := by
  rw [applyField, offerOf?]
  split
  · exact takes_setter setRpp_eq p v.asInt?
  · split
    · exact takes_setter setPage_eq p v.asInt?
    · split
      · exact (Takes.refl p).withLabels _ _
      · split
        · exact (Takes.refl p).withLabels _ _
        · exact .refl p

/-- **A record makes the offers of its fields**, in their order. -/
theorem takes_apply (p : Paging) (r : Record) :
    Takes p (p.apply r) (r.fields.filterMap offerOf?) := by
  rw [apply]
  induction r.fields generalizing p with
  | nil => exact .refl p
  | cons f fields ih =>
    have hfield := (takes_applyField p f.1 f.2).trans (ih (p.applyField f.1 f.2))
    rw [List.foldl_cons, List.filterMap_cons]
    cases hoffer : offerOf? f <;> rw [hoffer] at hfield <;> exact hfield

/-- The offers of a section of a settings file. -/
def sectionOffers (given : PagingSection) : List Offer :=
  [⟨.rpp, given.rpp⟩, ⟨.page, given.page⟩]

/-- **A section makes the offers of its two numbers.** -/
theorem takes_applySection (p : Paging) (given : PagingSection) :
    Takes p (p.applySection given) (sectionOffers given) :=
  ((takes_setter setRpp_eq p given.rpp).trans (takes_setter setPage_eq _ given.page)).withLabels _ _

/-! ## In words of 64 bits -/

/-- A difference of words, unless it falls below zero. -/
def subWord? (a b : UInt64) : Option UInt64 := if b ≤ a then some (a - b) else none

/-- A sum of words, unless it wraps around: then it comes out below its parts. -/
def addWord? (a b : UInt64) : Option UInt64 := if a ≤ a + b then some (a + b) else none

/-- A product of words, or the largest word. -/
def mulWord (a b : UInt64) : UInt64 := .ofNat (min (a.toNat * b.toNat) maxRow)

/-- **What stands after LIMIT, in words**: the offset and the number of rows. -/
def limitInWords? (p : Paging) : Option (UInt64 × UInt64) := do
  let before ← subWord? (.ofNat p.page) 1
  let count ← addWord? (.ofNat p.rpp) 1
  return (mulWord before (.ofNat p.rpp), count)

/-- **The neighbours of a page, in words**: zero for one that does not exist. -/
def neighboursInWords? (page : UInt64) (more : Bool) : Option (UInt64 × UInt64) := do
  let next ← if more then addWord? page 1 else some 0
  let prev ← if 1 < page then subWord? page 1 else some 0
  return (next, prev)

theorem toNat_subWord? {a b : UInt64} (h : b.toNat ≤ a.toNat) :
    ∃ c, subWord? a b = some c ∧ c.toNat = a.toNat - b.toNat := by
  have hle : b ≤ a := UInt64.le_iff_toNat_le.mpr h
  exact ⟨a - b, if_pos hle, UInt64.toNat_sub_of_le a b hle⟩

theorem toNat_addWord? {a b : UInt64} (h : a.toNat + b.toNat < 2 ^ 64) :
    ∃ c, addWord? a b = some c ∧ c.toNat = a.toNat + b.toNat := by
  have hsum : (a + b).toNat = a.toNat + b.toNat := by
    rw [UInt64.toNat_add, Nat.mod_eq_of_lt h]
  refine ⟨a + b, if_pos (UInt64.le_iff_toNat_le.mpr ?_), hsum⟩
  omega

theorem toNat_mulWord (a b : UInt64) : (mulWord a b).toNat = min (a.toNat * b.toNat) maxRow := by
  rw [mulWord, UInt64.toNat_ofNat', Nat.mod_eq_of_lt]
  exact Nat.lt_of_le_of_lt (Nat.min_le_right _ _) (by decide)

/-- A valid number fits a word. -/
theorem Valid.toNat_ofNat (hp : p.Valid) (k : Number) :
    (UInt64.ofNat (p.get k)).toNat = p.get k := by
  rw [UInt64.toNat_ofNat', Nat.mod_eq_of_lt]
  have hlt := (valid_iff.mp hp k).2
  omega

/-- **The offset and the number of rows are computed without fail**: only the offset saturates. -/
theorem limitInWords?_eq (hp : p.Valid) :
    (limitInWords? p).map (Prod.map UInt64.toNat UInt64.toNat)
      = some (min ((p.page - 1) * p.rpp) (2 ^ 64 - 1), p.rpp + 1) := by
  have hrpp : (UInt64.ofNat p.rpp).toNat = p.rpp := hp.toNat_ofNat .rpp
  have hpage : (UInt64.ofNat p.page).toNat = p.page := hp.toNat_ofNat .page
  have hone : (1 : UInt64).toNat = 1 := rfl
  have hpos := hp.page_pos
  have hlt := hp.rpp_lt
  obtain ⟨before, hbefore, hbefore'⟩ := toNat_subWord? (a := .ofNat p.page) (b := 1) (by omega)
  obtain ⟨count, hcount, hcount'⟩ := toNat_addWord? (a := .ofNat p.rpp) (b := 1) (by omega)
  rw [limitInWords?, hbefore, hcount]
  simp only [Option.bind_eq_bind, Option.bind_some, Option.pure_def, Option.map_some, Prod.map,
    toNat_mulWord, hbefore', hcount', hrpp, hpage, hone]
  rfl

/-- **The neighbours are computed without fail**, for any number of rows. -/
theorem neighboursInWords?_eq {α : Type} (hp : p.Valid) (rows : List α) :
    (neighboursInWords? (.ofNat p.page) (p.rpp < rows.length)).map
        (Prod.map UInt64.toNat UInt64.toNat)
      = some ((p.window.finalize rows).2.next, (p.window.finalize rows).2.prev) := by
  have hpage : (UInt64.ofNat p.page).toNat = p.page := hp.toNat_ofNat .page
  have hone : (1 : UInt64).toNat = 1 := rfl
  have hpos := hp.page_pos
  have hlt := hp.page_lt
  have hafter : 1 < UInt64.ofNat p.page ↔ 1 < p.page := by
    rw [UInt64.lt_iff_toNat_lt, hpage, hone]
  obtain ⟨next, hnext, hnext'⟩ := toNat_addWord? (a := .ofNat p.page) (b := 1) (by omega)
  obtain ⟨prev, hprev, hprev'⟩ := toNat_subWord? (a := .ofNat p.page) (b := 1) (by omega)
  rw [neighboursInWords?, hnext, hprev]
  simp only [Window.finalize, window, decide_eq_true_eq, hafter, gt_iff_lt]
  split <;> split <;> simp [hnext', hprev', hpage, hone]

end SqlShorthand.Paging
