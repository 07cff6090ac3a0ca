import SqlShorthand.Proofs.Command.RoundTrip
import SqlShorthand.Proofs.Options
import SqlShorthand.Proofs.Placeholder.Parts
import SqlShorthand.Proofs.Record
import SqlShorthand.Statement.Basic

/-!
# Proofs/Statement/Written — what a write puts into its SQL, and what it binds

A write names its table, its keywords and its columns, and gives a placeholder or a fragment for
each value.  Tables, keywords and columns are words, so they have no quote and no colon
(`unmarked_of_isNameChar`, `unmarked_modifierSql`); an empty fragment drops out
(`filterMap_written`); and all other values but fragments are bound, each under the name of its
column (`get?_boundFields`).
-/

namespace SqlShorthand.Statement

open Placeholder (isQuote isMark Unmarked)

/-! ## Texts without quotes, and without colons -/

/-- A text without quotes. -/
def Unquoted (s : String) : Prop := ∀ ch ∈ s.toList, isQuote ch = false

theorem unquoted_of_any {s : String} (h : s.toList.any isQuote = false) : Unquoted s :=
  fun ch hch => Bool.eq_false_iff.mpr (List.any_eq_false.mp h ch hch)

/-- What holds of the characters of two texts holds of those of both together. -/
theorem forall_mem_append {p : Char → Prop} {s t : String} (hs : ∀ ch ∈ s.toList, p ch)
    (ht : ∀ ch ∈ t.toList, p ch) : ∀ ch ∈ (s ++ t).toList, p ch := by
  intro ch hch
  rw [String.toList_append, List.mem_append] at hch
  exact hch.elim (hs ch) (ht ch)

theorem forall_mem_intercalate {p : Char → Prop} {sep : String} (hsep : ∀ ch ∈ sep.toList, p ch)
    {parts : List String} (h : ∀ part ∈ parts, ∀ ch ∈ part.toList, p ch) :
    ∀ ch ∈ (sep.intercalate parts).toList, p ch := by
  induction parts with
  | nil => exact fun ch hch => absurd hch (by simp)
  | cons part parts ih =>
    obtain ⟨hpart, hparts⟩ := List.forall_mem_cons.mp h
    cases parts with
    | nil => rwa [String.intercalate_singleton]
    | cons next parts =>
      rw [String.intercalate_cons_cons]
      exact forall_mem_append (forall_mem_append hpart hsep) (ih hparts)

theorem unquoted_of_unmarked {s : String} (h : Unmarked s) : Unquoted s :=
  fun ch hch => (Bool.or_eq_false_iff.mp (h ch hch)).1

theorem unmarked_of_isNameChar {s : String} (h : ∀ ch ∈ s.toList, Text.isNameChar ch = true) :
    Unmarked s := by
  intro ch hch
  refine Bool.eq_false_iff.mpr fun hmark => ?_
  have hname := h ch hch
  rcases Bool.or_eq_true_iff.mp hmark with hquote | hcolon
  · rw [Placeholder.not_isNameChar_of_isQuote hquote] at hname
    cases hname
  · rw [eq_of_beq hcolon] at hname
    exact absurd hname (by decide)

theorem unquoted_of_isNameChar {s : String} (h : ∀ ch ∈ s.toList, Text.isNameChar ch = true) :
    Unquoted s :=
  unquoted_of_unmarked (unmarked_of_isNameChar h)

theorem closed_of_unquoted {s : List Char} (h : ∀ ch ∈ s, isQuote ch = false) :
    Placeholder.Closed s := by
  induction s with
  | nil => exact .nil
  | cons ch s ih =>
    obtain ⟨hch, hs⟩ := List.forall_mem_cons.mp h
    exact .char hch (ih hs)

/-! ## The keywords of a command -/

theorem unmarked_upper {token : String} (h : ∀ ch ∈ token.toList, Text.isNameChar ch = true) :
    Unmarked (Text.upper token) := by
  have hcodes : ∀ n < 123, Text.isNameChar (Char.ofNat n) = true →
      (Text.upperOf (Char.ofNat n)).all (fun ch => !isMark ch) = true := by decide +kernel
  intro ch hch
  rw [Text.upper, String.toList_ofList, List.mem_flatMap] at hch
  obtain ⟨small, hsmall, hch⟩ := hch
  have hcode := Text.toNat_of_isNameChar (h small hsmall)
  have hall := hcodes small.toNat (by omega)
  rw [Char.ofNat_toNat] at hall
  exact Bool.not_eq_true' .. |>.mp (List.all_eq_true.mp (hall (h small hsmall)) ch hch)

/-- **The keywords of a command that was read have no quote and no colon.** -/
theorem unmarked_modifierSql {c : Command} (h : c.WellFormed) :
    Unmarked (Options.resolve c.options).modifierSql := by
  intro ch hch
  rw [Options.modifierSql, String.toList_join, List.mem_flatMap] at hch
  obtain ⟨part, hpart, hch⟩ := hch
  obtain ⟨keyword, hkeyword, rfl⟩ := List.mem_map.mp hpart
  rw [Options.modifiers_resolve] at hkeyword
  obtain ⟨token, htoken, rfl⟩ := List.mem_map.mp hkeyword
  have hword := h.options token (List.mem_filter.mp htoken).1
  have hspace : Unmarked " " := Placeholder.unmarked_of_any (by decide)
  exact forall_mem_append hspace (unmarked_upper hword.chars) ch hch

theorem unquoted_modifierSql {c : Command} (h : c.WellFormed) :
    Unquoted (Options.resolve c.options).modifierSql :=
  unquoted_of_unmarked (unmarked_modifierSql h)

/-! ## Values -/

/-- The values that a statement writes: all but empty fragments. -/
def isWritten (v : Value) : Bool := v != .raw ""

/-- What a statement writes for a value that it writes: its placeholder, or the fragment. -/
def writtenAs (placeholder : String) : Value → String
  | .raw sql => sql
  | _ => placeholder

theorem written?_eq (placeholder : String) (v : Value) :
    written? placeholder v = if isWritten v then some (writtenAs placeholder v) else none := by
  cases v with
  | raw sql =>
    by_cases hempty : sql = "" <;> simp [written?, isWritten, writtenAs, hempty]
  | _ => rfl

/-- **Each value that is written is written once, in its place.** -/
theorem filterMap_written {α : Type} (placeholder : α → String) (value : α → Value) (xs : List α) :
    xs.filterMap (fun x => written? (placeholder x) (value x))
      = (xs.filter fun x => isWritten (value x)).map fun x =>
          writtenAs (placeholder x) (value x) := by
  simp only [written?_eq, ← List.filterMap_eq_map, List.filterMap_filter, Function.comp_apply]

/-- …and its column is named in the same place. -/
theorem filterMap_column (fields : List (String × Value)) :
    fields.filterMap (fun f => (written? "" f.2).map fun _ => f.1)
      = (fields.filter fun f => isWritten f.2).map (·.1) := by
  rw [← List.filterMap_eq_map, List.filterMap_filter]
  refine List.filterMap_congr fun f _ => ?_
  rw [written?_eq]
  split <;> rfl

variable {r : Record} {column : String} {v : Value}

theorem get?_boundFields (hr : r.names.Nodup) (hmem : (column, v) ∈ r.fields)
    (hv : v.isRaw = false) : (boundFields r).get? column = some v := by
  have hnames : ((r.fields.filter fun f => !f.2.isRaw).map (·.1)).Nodup :=
    hr.sublist (List.filter_sublist.map _)
  have hbound : (column, v) ∈ r.fields.filter fun f => !f.2.isRaw :=
    List.mem_filter.mpr ⟨hmem, by simp [hv]⟩
  exact (Record.get?_ofList hnames column).trans (Record.lookup_of_mem hnames hbound)

end SqlShorthand.Statement
