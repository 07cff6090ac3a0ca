import Mathlib.Logic.Relation
import SqlShorthand.Proofs.Options
import SqlShorthand.Proofs.Session.Coherence
import SqlShorthand.Proofs.Session.Contact

/-!
# Proofs/Session/Rewording — words that name flags may stand anywhere

What the words of a command come to is settled by two things (`resolve_eq_iff`): which flags occur
among them, and the sequence of the others.  So a word that names a flag may change its place, its
case and its number (`Rewords`), and all that is made of the words stays (`resolve_of_reworded`).

A command uses its words through `resolve` alone (`course_congr`).  Reworded, it compiles to the
same statement, gives the same result, and leaves the same session.
-/

namespace SqlShorthand

namespace Options

variable {xs ys : List String}

/-! ## What the words come to -/

/-- Whether a word names a flag, in any case. -/
def isKnown (token : String) : Bool := Flag.all.any fun f => Text.sameIgnoringCase f.name token

/-- **A flag occurs among the words**, in any case. -/
def Occurs (f : Flag) (tokens : List String) : Prop :=
  ∃ token ∈ tokens, Text.sameIgnoringCase f.name token = true

/-- **The words that remain**, in upper case: those that name no flag, empty ones left out. -/
def remaining (tokens : List String) : List String :=
  (tokens.filter fun token => !token.isEmpty && !isKnown token).map Text.upper

theorem isKnown_eq (token : String) : isKnown token = (Flag.ofToken? token).isSome := by
  rw [Bool.eq_iff_iff, isKnown, Flag.ofToken?, List.find?_isSome, List.any_eq_true]

theorem modifiers_resolve_remaining (tokens : List String) :
    (resolve tokens).modifiers = remaining tokens := by
  rw [modifiers_resolve, remaining]
  refine congrArg (List.map Text.upper) (List.filter_congr fun token _ => ?_)
  rw [isModifier, isKnown_eq, Option.not_isSome]

/-- **Two lists of words come to the same** exactly if the same flags occur in both and the same
words remain. -/
theorem resolve_eq_iff :
    resolve xs = resolve ys ↔ (∀ f, Occurs f xs ↔ Occurs f ys) ∧ remaining xs = remaining ys := by
  simp only [Occurs, ← has_resolve_iff, ← modifiers_resolve_remaining]
  constructor
  · intro h
    rw [h]
    exact ⟨fun _ => Iff.rfl, rfl⟩
  · rintro ⟨hflags, hmodifiers⟩
    have hsets : (resolve xs).flags = (resolve ys).flags :=
      Flags.eq_of_contains fun f => Bool.eq_iff_iff.mpr (hflags f)
    generalize resolve xs = o at hsets hmodifiers
    generalize resolve ys = o' at hsets hmodifiers
    cases o
    cases o'
    simp_all only

theorem has_resolve_append (xs ys : List String) (f : Flag) :
    (resolve (xs ++ ys)).has f = ((resolve xs).has f || (resolve ys).has f) := by
  rw [has_resolve, has_resolve, has_resolve, List.any_append]

theorem remaining_append (xs ys : List String) :
    remaining (xs ++ ys) = remaining xs ++ remaining ys := by
  rw [remaining, List.filter_append, List.map_append, remaining, remaining]

/-! ## Rewording -/

/-- **One change to words that name flags**: such a word moves past its neighbour, is said again, or
is written in another case. -/
inductive Rewords : List String → List String → Prop where
  | move {known : String} (hknown : isKnown known = true) (token : String)
      (before after : List String) :
      Rewords (before ++ known :: token :: after) (before ++ token :: known :: after)
  | again {known : String} (hknown : isKnown known = true) (before after : List String) :
      Rewords (before ++ known :: after) (before ++ known :: known :: after)
  | recase {known known' : String} (hknown : isKnown known = true)
      (hcase : Text.sameIgnoringCase known known' = true) (before after : List String) :
      Rewords (before ++ known :: after) (before ++ known' :: after)

/-- **The same words but for such changes**, forth and back. -/
def Reworded : List String → List String → Prop := Relation.EqvGen Rewords

theorem occurs_append {f : Flag} : Occurs f (xs ++ ys) ↔ Occurs f xs ∨ Occurs f ys := by
  simp only [Occurs, List.mem_append, or_and_right, exists_or]

theorem occurs_cons {f : Flag} {token : String} :
    Occurs f (token :: xs) ↔ Text.sameIgnoringCase f.name token = true ∨ Occurs f xs := by
  simp only [Occurs, List.mem_cons, exists_eq_or_imp]

theorem remaining_cons (token : String) (xs : List String) :
    remaining (token :: xs) = remaining [token] ++ remaining xs := remaining_append [token] xs

theorem remaining_known {known : String} (h : isKnown known = true) : remaining [known] = [] := by
  simp [remaining, h]

/-- Case does not matter to what a word names… -/
theorem sameIgnoringCase_congr {known known' : String}
    (h : Text.sameIgnoringCase known known' = true) (name : String) :
    Text.sameIgnoringCase name known' = Text.sameIgnoringCase name known := by
  rw [Text.sameIgnoringCase, Text.sameIgnoringCase, eq_of_beq h]

/-- …or whether it names a flag. -/
theorem isKnown_congr {known known' : String} (h : Text.sameIgnoringCase known known' = true) :
    isKnown known' = isKnown known := by
  simp only [isKnown, sameIgnoringCase_congr h]

/-- **One change leaves what the words come to.** -/
theorem resolve_of_rewords (h : Rewords xs ys) : resolve xs = resolve ys := by
  rw [resolve_eq_iff]
  cases h with
  | move hknown token before after =>
    refine ⟨fun f => ?_, ?_⟩
    · simp only [occurs_append, occurs_cons, or_left_comm]
    · simp only [remaining_append, remaining_cons _ (_ :: _), remaining_cons _ after,
        remaining_known hknown, List.nil_append]
  | again hknown before after =>
    refine ⟨fun f => ?_, ?_⟩
    · simp only [occurs_append, occurs_cons, ← or_assoc, or_self_right]
    · simp only [remaining_append, remaining_cons _ (_ :: _), remaining_known hknown,
        List.nil_append]
  | recase hknown hcase before after =>
    refine ⟨fun f => ?_, ?_⟩
    · simp only [occurs_append, occurs_cons, sameIgnoringCase_congr hcase]
    · have hknown' := (isKnown_congr hcase).trans hknown
      simp only [remaining_append, remaining_cons _ after, remaining_known hknown,
        remaining_known hknown']

/-- **Rewording leaves what the words come to.** -/
theorem resolve_of_reworded (h : Reworded xs ys) : resolve xs = resolve ys := by
  induction h with
  | rel xs ys h => exact resolve_of_rewords h
  | refl xs => rfl
  | symm xs ys _ ih => exact ih.symm
  | trans xs ys zs _ _ ih ih' => exact ih.trans ih'

end Options

/-! ## Commands -/

/-- A command is compiled with what its words come to, not with the words. -/
theorem Command.compile_withOptions (c : Command) (tokens : List String) (options : Options)
    (args : List Params) :
    { c with options := tokens }.compile options args = c.compile options args := rfl

/-- Narrowing a command to its row leaves its words, and does not look at them. -/
theorem Command.scopeRow_withOptions (c : Command) (tokens : List String) (keys : KeyMap)
    (quote : String → String) :
    { c with options := tokens }.scopeRow keys quote
      = { c.scopeRow keys quote with options := tokens } := by
  simp only [scopeRow, scopeToRow]
  split
  · split <;> rfl
  · rfl

namespace Session

variable {γ β σ : Type} [Gateway γ β]

/-- **The course of a command depends on what its words come to**, and not on the words. -/
theorem course_congr (s : Session γ β σ) (c : Command) {tokens : List String}
    (h : Options.resolve tokens = Options.resolve c.options) (args : List Params) :
    s.course { c with options := tokens } args = s.course c args := by
  simp only [course, selectCourse, queryCourse, statementCourse, modelCourse, selectModel,
    modelQuery, Command.scopeToModelKey, controlCourse, control, keyCommand, cacheCommand, h,
    Command.compile_withOptions]

variable [Store σ]

/-- **Commands whose words come to the same run alike.** -/
theorem exec_congr (s : Session γ β σ) {call : Call} {c : Command} {text : String}
    {tokens : List String} (hparse : Command.parse call.command = .ok c)
    (hparse' : Command.parse text = .ok { c with options := tokens })
    (h : Options.resolve tokens = Options.resolve c.options) :
    s.exec { call with command := text } = s.exec call := by
  generalize hnarrowed : c.scopeRow (s.keysOf c.connection) (Gateway.quote s.gateway) = narrowed
  have hoptions : narrowed.options = c.options := by
    obtain ⟨clause, hclause⟩ := scopeRow_eq c (s.keysOf c.connection) (Gateway.quote s.gateway)
    rw [← hnarrowed, hclause]
  have htokenize : s.tokenize call.command = .ok narrowed := by
    rw [tokenize, hparse, ← hnarrowed]
  have htokenize' : s.tokenize text = .ok { narrowed with options := tokens } := by
    simp only [tokenize, hparse', Command.scopeRow_withOptions, hnarrowed]
  have hrun : s.runCommand { narrowed with options := tokens } call.args
      = s.runCommand narrowed call.args := by
    rw [runCommand_eq_follow, runCommand_eq_follow, course_congr s narrowed (hoptions ▸ h)]
  simp only [exec, htokenize, htokenize', hrun]

/-- **Words that name flags may stand anywhere, in any case and any number; the others may not.**
Two lists of words come to the same exactly if the same flags occur in both and the same words
remain, in their order.  Words that are put behind others add their flags and their keywords.  And a
command that is reworded where flags are named compiles to the same statement, whatever its
arguments, and runs alike in every session: the same result, and the same session after it. -/
theorem flags_named_anywhere (xs ys : List String) :
    (Options.resolve xs = Options.resolve ys ↔
      (∀ f, Options.Occurs f xs ↔ Options.Occurs f ys) ∧
        Options.remaining xs = Options.remaining ys) ∧
    (∀ f, (Options.resolve (xs ++ ys)).has f
      = ((Options.resolve xs).has f || (Options.resolve ys).has f)) ∧
    (Options.resolve (xs ++ ys)).modifiers
      = (Options.resolve xs).modifiers ++ (Options.resolve ys).modifiers ∧
    (Options.Reworded xs ys → ∀ c : Command,
      (∀ args, { c with options := ys }.compile (.resolve ys) args
        = { c with options := xs }.compile (.resolve xs) args) ∧
      ∀ (s : Session γ β σ) (call : Call) (text : String),
        Command.parse call.command = .ok { c with options := xs } →
        Command.parse text = .ok { c with options := ys } →
        s.exec { call with command := text } = s.exec call) := by
  refine ⟨Options.resolve_eq_iff, Options.has_resolve_append xs ys, ?_, fun h c => ?_⟩
  · simp only [Options.modifiers_resolve_remaining, Options.remaining_append]
  · have hresolve := Options.resolve_of_reworded h
    refine ⟨fun args => ?_, fun s call text hparse hparse' => ?_⟩
    · rw [Command.compile_withOptions, Command.compile_withOptions c xs, hresolve]
    · exact exec_congr s hparse hparse' hresolve.symm

/-- A flag moves behind a keyword, is said again, and once in capitals. -/
theorem flags_named_anywhere_cache :
    let config : ConnectionConfig := { host := "h", database := "d", user := "u", password := "" }
    let s : Session Counting Unit MemoryStore :=
      { gateway := {}, registry := { connections := [{ id := 1, config }] }
        cache := some { store := {}, clock := .manual 1000 0 } }
    let call : Call := { command := "users/cache/distinct WHERE a = 1" }
    let call' : Call := { command := "users/distinct/CACHE/cache WHERE a = 1" }
    s.exec call' = s.exec call ∧
      (s.exec call).2.backendEvents
        = [.connect 1 "h" "d", .fetch 1 "SELECT DISTINCT * FROM users WHERE a = 1" .none] := by
  intro config s call call'
  let c : Command := { table := "users", clause := "WHERE a = 1" }
  have hmove : Options.Rewords ["cache", "distinct"] ["distinct", "cache"] :=
    .move (by decide) "distinct" [] []
  have hagain : Options.Rewords ["distinct", "cache"] ["distinct", "cache", "cache"] :=
    .again (by decide) ["distinct"] []
  have hrecase : Options.Rewords ["distinct", "cache", "cache"] ["distinct", "CACHE", "cache"] :=
    .recase (by decide) (by decide) ["distinct"] ["cache"]
  have hreworded : Options.Reworded ["cache", "distinct"] ["distinct", "CACHE", "cache"] :=
    .trans _ _ _ (.rel _ _ hmove) (.trans _ _ _ (.rel _ _ hagain) (.rel _ _ hrecase))
  obtain ⟨-, -, -, hruns⟩ := flags_named_anywhere (γ := Counting) (σ := MemoryStore)
    ["cache", "distinct"] ["distinct", "CACHE", "cache"]
  exact ⟨(hruns hreworded c).2 s call call'.command (by decide +kernel) (by decide +kernel),
    by decide +kernel⟩

end Session

end SqlShorthand
