import SqlShorthand.Proofs.Paging.Numbers
import SqlShorthand.Proofs.Session.Coherence
import SqlShorthand.Proofs.Session.Isolation

/-!
# Proofs/Session/PagingRuns — the paging of a session stays valid

The paging of a session is reached by its setters, by records, by the verb `pagination` and by
settings files (`PagingMove`).  Each move does no more than make offers (`takes_movePaging`), so
after a run of moves each number is the last that was taken (`takes_playPaging`).  From the paging
at the start, which is valid, all that is computed of a page is exact.
-/

namespace SqlShorthand

open Paging (Offer Takes)

/-- What reaches the paging of a session. -/
inductive PagingMove (σ : Type) where
  | setRpp (n : Int64)
  | setPage (n : Int64)
  | setNextLabel (label : Option String)
  | setPrevLabel (label : Option String)
  | apply (r : Record)
  /-- Any call; only one of the verb `pagination` makes offers. -/
  | exec (call : Call)
  | settings (settings : Settings) (newCache : Option String → Cache σ)

/-- **The offers of a call**: those of its first argument, if that is a record and the verb is
`pagination`. -/
def Call.offers (call : Call) : List Offer :=
  match Command.parse call.command with
  | .ok c =>
    if c.verb = some .pagination then
      match call.args.head?.bind Params.asRecord? with
      | some r => r.fields.filterMap Paging.offerOf?
      | none => []
    else []
  | .error _ => []

namespace Session

variable {γ β σ : Type} [Gateway γ β] [Store σ] {s : Session γ β σ}

/-- The session after a move. -/
def movePaging (s : Session γ β σ) : PagingMove σ → Session γ β σ
  | .setRpp n => { s with paging := (s.paging.setRpp n).2 }
  | .setPage n => { s with paging := (s.paging.setPage n).2 }
  | .setNextLabel label => { s with paging := { s.paging with nextLabel := label } }
  | .setPrevLabel label => { s with paging := { s.paging with prevLabel := label } }
  | .apply r => { s with paging := s.paging.apply r }
  | .exec call => (s.exec call).2
  | .settings settings newCache => (settings.apply newCache s).2

/-- **The offers of a move.**  A settings file that fails comes to no offers. -/
def offersOf (s : Session γ β σ) : PagingMove σ → List Offer
  | .setRpp n => [⟨.rpp, some n⟩]
  | .setPage n => [⟨.page, some n⟩]
  | .setNextLabel _ | .setPrevLabel _ => []
  | .apply r => r.fields.filterMap Paging.offerOf?
  | .exec call => call.offers
  | .settings settings newCache =>
    match (settings.apply newCache s).1, settings.paging with
    | .ok _, some given => Paging.sectionOffers given
    | _, _ => []

/-! ## A move makes offers -/

omit [Gateway γ β] [Store σ] in
theorem takes_pagingCommand (s : Session γ β σ) (args : List Params) :
    Takes s.paging (s.pagingCommand args).2.paging
      (match args.head?.bind Params.asRecord? with
        | some r => r.fields.filterMap Paging.offerOf?
        | none => []) := by
  rw [pagingCommand]
  cases args.head?.bind Params.asRecord? with
  | none => exact .refl _
  | some r => exact Paging.takes_apply s.paging r

/-- **A call makes its offers, and no others.** -/
theorem takes_exec (s : Session γ β σ) (call : Call) :
    Takes s.paging (s.exec call).2.paging call.offers := by
  rw [Call.offers]
  cases hparse : Command.parse call.command with
  | error e =>
    rw [exec, tokenize, hparse]
    exact .refl _
  | ok c =>
    obtain ⟨clause, hc⟩ := tokenize_eq s hparse
    dsimp only
    rw [(exec_of_tokenize s hc).1]
    by_cases hverb : c.verb = some .pagination
    · have hcommand : s.runCommand { c with clause } call.args = s.pagingCommand call.args := by
        rw [runCommand]
        dsimp only
        rw [hverb]
        rfl
      rw [if_pos hverb, hcommand]
      exact takes_pagingCommand s call.args
    · rw [if_neg hverb, (frame_runCommand s { c with clause } call.args).paging hverb]
      exact .refl _

omit [Gateway γ β] [Store σ] in
theorem register_paging (s : Session γ β σ) (config : ConnectionConfig) :
    (s.register config).2.paging = s.paging := by
  rw [register]
  split <;> rfl

omit [Gateway γ β] [Store σ] in
theorem registerEntry_paging (s : Session γ β σ) (e : ConnectionEntry) :
    (s.registerEntry e).2.paging = s.paging := by
  rw [registerEntry]
  cases e.toConfig with
  | error err => rfl
  | ok config =>
    have hregister := register_paging s config
    dsimp only
    split <;> rename_i h <;> rw [h] at hregister <;> exact hregister

omit [Gateway γ β] [Store σ] in
/-- Connections are registered without a look at the paging. -/
theorem registerAll_paging (s : Session γ β σ) (entries : List ConnectionEntry) :
    (s.registerAll entries).2.paging = s.paging := by
  induction entries generalizing s with
  | nil => rfl
  | cons e rest ih =>
    have hentry := registerEntry_paging s e
    rw [registerAll]
    split
    · rename_i h
      rwa [h] at hentry
    · rename_i id after h
      have hrest := ih after
      rw [h] at hentry
      split <;> rename_i hall <;> rw [hall] at hrest <;> exact hrest.trans hentry

omit [Gateway γ β] [Store σ] in
/-- **A settings file makes the offers of its section, once all the rest is in.** -/
theorem takes_settings (s : Session γ β σ) (settings : Settings)
    (newCache : Option String → Cache σ) :
    Takes s.paging (settings.apply newCache s).2.paging
      (match (settings.apply newCache s).1, settings.paging with
        | .ok _, some given => Paging.sectionOffers given
        | _, _ => []) := by
  have hregistered := registerAll_paging s settings.connections
  rw [Settings.apply]
  generalize s.registerAll settings.connections = registered at hregistered
  obtain ⟨err | ids, after⟩ := registered
  · rw [← hregistered]
    exact .refl _
  · rw [← hregistered]
    simp only [Settings.applySections]
    cases settings.buildCache newCache with
    | error err => exact .refl _
    | ok cache =>
      cases settings.paging with
      | none => exact .refl _
      | some given => exact Paging.takes_applySection after.paging given

/-- **A move makes its offers.** -/
theorem takes_movePaging (s : Session γ β σ) (m : PagingMove σ) :
    Takes s.paging (s.movePaging m).paging (s.offersOf m) := by
  cases m with
  | setRpp n => exact Paging.takes_setter Paging.setRpp_eq s.paging (some n)
  | setPage n => exact Paging.takes_setter Paging.setPage_eq s.paging (some n)
  | setNextLabel label => exact (Takes.refl s.paging).withLabels _ _
  | setPrevLabel label => exact (Takes.refl s.paging).withLabels _ _
  | apply r => exact Paging.takes_apply s.paging r
  | exec call => exact takes_exec s call
  | settings settings newCache => exact takes_settings s settings newCache

/-! ## Runs -/

/-- The session after a run of moves. -/
def playPaging (s : Session γ β σ) (moves : List (PagingMove σ)) : Session γ β σ :=
  moves.foldl movePaging s

/-- The offers of a run. -/
def allOffers : Session γ β σ → List (PagingMove σ) → List Offer
  | _, [] => []
  | s, m :: moves => s.offersOf m ++ allOffers (s.movePaging m) moves

/-- **A run makes the offers of its moves.** -/
theorem takes_playPaging (s : Session γ β σ) (moves : List (PagingMove σ)) :
    Takes s.paging (s.playPaging moves).paging (s.allOffers moves) := by
  induction moves generalizing s with
  | nil => exact .refl _
  | cons m moves ih => exact (takes_movePaging s m).trans (ih (s.movePaging m))

/-! ## What is computed of a page -/

/-- **The paging is sound**: its numbers are those that were taken last, both fit a word with a
sign, and nothing that is computed of a page falls below zero or overflows. -/
structure SoundPaging (p : Paging) (offers : List Offer) : Prop where
  rpp : 1 ≤ p.rpp ∧ p.rpp ≤ 2 ^ 63 - 1
  page : 1 ≤ p.page ∧ p.page ≤ 2 ^ 63 - 1
  /-- Each number is the last one that was offered and is at least one, or the one at the start. -/
  taken : ∀ k, p.get k = Paging.lastTaken k (({} : Paging).get k) offers
  /-- A page is asked for from its offset on, and with one row more. -/
  prepare : ∀ sql, Statement.hasLimit sql = false → p.prepare sql
    = .ok (Statement.appendLimit sql (toString (min ((p.page - 1) * p.rpp) (2 ^ 64 - 1)) ++ ", "
        ++ toString (p.rpp + 1)), p.window)
  /-- In words, the difference and the sum in this are exact, and the product saturates… -/
  limit : (Paging.limitInWords? p).map (Prod.map UInt64.toNat UInt64.toNat)
    = some (min ((p.page - 1) * p.rpp) (2 ^ 64 - 1), p.rpp + 1)
  /-- …and the numbers of the neighbours are exact. -/
  neighbours : ∀ {α : Type} (rows : List α),
    (Paging.neighboursInWords? (.ofNat p.page) (p.rpp < rows.length)).map
        (Prod.map UInt64.toNat UInt64.toNat)
      = some ((p.window.finalize rows).2.next, (p.window.finalize rows).2.prev)

omit [Gateway γ β] [Store σ] in
theorem soundPaging_of_takes {p : Paging} {offers : List Offer} (h : Takes {} p offers) :
    SoundPaging p offers := by
  have hp : p.Valid := h.valid (by constructor <;> decide)
  have hrpp := hp.rpp_lt
  have hpage := hp.page_lt
  refine ⟨⟨hp.rpp_pos, by omega⟩, ⟨hp.page_pos, by omega⟩, h, fun sql hsql => ?_,
    Paging.limitInWords?_eq hp, Paging.neighboursInWords?_eq hp⟩
  have hcount : min (p.rpp + 1) maxRow = p.rpp + 1 := by
    rw [maxRow]
    omega
  rw [Paging.prepare, hsql, Paging.Window.limit]
  simp only [Paging.window, hcount, Bool.false_eq_true, if_false]
  rfl

/-- **The paging of a session stays valid, and its arithmetic cannot fail.**  Whatever moves a run
makes from the paging at the start, its numbers are between one and the largest word with a sign;
a move whose offers for a number are refused leaves that number; a number that is taken is the same
in a word without a sign; and what is computed of a page is exact, up to the offset, which
saturates. -/
theorem paging_stays_valid (s : Session γ β σ) (hstart : s.paging = {})
    (moves : List (PagingMove σ)) :
    SoundPaging (s.playPaging moves).paging (s.allOffers moves) ∧
      (∀ m k, (∀ o ∈ (s.playPaging moves).offersOf m, o.taken? k = none) →
        ((s.playPaging moves).movePaging m).paging.get k = (s.playPaging moves).paging.get k) ∧
      ∀ n k, Paging.accepted? n = some k → n.toUInt64.toNat = k :=
  ⟨soundPaging_of_takes (hstart ▸ takes_playPaging s moves),
    fun m _ hrefused => (takes_movePaging _ m).get_eq hrefused,
    fun _ _ => Paging.toNat_toUInt64_of_accepted?⟩

/-- A page far beyond the last row, given as a text, and two numbers that are refused: the offset
saturates, and the number of rows does not. -/
theorem paging_stays_valid_saturated :
    let s : Session Counting Unit MemoryStore := { gateway := {} }
    let call : Call :=
      { command := ":pagination"
        args := [.named ⟨[("page", .text " 100000000000 "), ("rpp", .null)]⟩] }
    let p := (s.playPaging [.setRpp 1000000000, .exec call, .setPage 0]).paging
    p.rpp = 1000000000 ∧ p.page = 100000000000 ∧ p.prepare "SELECT 1"
      = .ok ("SELECT 1 LIMIT 18446744073709551615, 1000000001", p.window) := by
  intro s call p
  have hsound := (paging_stays_valid s rfl [.setRpp 1000000000, .exec call, .setPage 0]).1
  have hrpp : p.rpp = 1000000000 := (hsound.taken .rpp).trans (by decide +kernel)
  have hpage : p.page = 100000000000 := (hsound.taken .page).trans (by decide +kernel)
  have hprepare := hsound.prepare "SELECT 1" (by decide +kernel)
  refine ⟨hrpp, hpage, hprepare.trans ?_⟩
  rw [hrpp, hpage]
  rfl

end Session

end SqlShorthand
