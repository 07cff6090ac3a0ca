/-!
# Text/Blank — white space, and a text without it

Blank means the Unicode property White_Space, so a no-break space ends a word just as a space does.
A text is handled as its list of characters; `trimmed` is the same rule on a `String`.
-/

namespace SqlShorthand.Text

/-- A character with the Unicode property White_Space. -/
def isBlank (c : Char) : Bool :=
  let n := c.toNat
  (9 ≤ n && n ≤ 13) || n == 32 || n == 0x85 || n == 0xA0 || n == 0x1680 ||
    (0x2000 ≤ n && n ≤ 0x200A) || n == 0x2028 || n == 0x2029 || n == 0x202F || n == 0x205F ||
    n == 0x3000

/-- The text from its first character that is not blank. -/
def trimStart (s : List Char) : List Char := s.dropWhile isBlank

/-- The text up to its last character that is not blank. -/
def trimEnd (s : List Char) : List Char := (s.reverse.dropWhile isBlank).reverse

/-- The text without blanks at either end. -/
def trim (s : List Char) : List Char := trimEnd (trimStart s)

/-- The text without blanks at either end. -/
def trimmed (s : String) : String := .ofList (trim s.toList)

/-- The maximal runs of characters that are not blank, in order. -/
def words (s : List Char) : List (List Char) := (s.splitOnP isBlank).filter (!·.isEmpty)

/-- Nothing but blanks. -/
def allBlank (s : String) : Bool := s.toList.all isBlank

/-! ## What trimming leaves -/

@[simp] theorem trim_nil : trim [] = [] := rfl

/-- Trimming the end of a text that ends in a visible character leaves it alone. -/
theorem trimEnd_append_singleton (s : List Char) {c : Char} (h : isBlank c = false) :
    trimEnd (s ++ [c]) = s ++ [c] := by
  simp [trimEnd, h]

/-- A text that starts with a visible character loses nothing at its start. -/
theorem trimStart_cons {c : Char} (s : List Char) (h : isBlank c = false) :
    trimStart (c :: s) = c :: s := by
  simp [trimStart, h]

end SqlShorthand.Text
