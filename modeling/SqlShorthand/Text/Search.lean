/-!
# Text/Search — finding and replacing a piece of text

Every search goes from the left, and matches never overlap.
-/

namespace SqlShorthand.Text

/-- What precedes and what follows the first `sep`, which is not empty. -/
def splitOnce? (sep : List Char) : List Char → Option (List Char × List Char)
  | [] => none
  | c :: cs =>
    match sep.isPrefixOf? (c :: cs) with
    | some rest => some ([], rest)
    | none => (splitOnce? sep cs).map fun (before, after) => (c :: before, after)

/-- Whether `piece`, which is not empty, occurs in the text. -/
def occurs (piece : List Char) (s : List Char) : Bool := (splitOnce? piece s).isSome

/-- The text after `skip` characters, with each `piece` replaced by `new`. -/
def replaceFrom (piece new : List Char) : Nat → List Char → List Char
  | _, [] => []
  | skip + 1, _ :: cs => replaceFrom piece new skip cs
  | 0, c :: cs =>
    if piece.isPrefixOf (c :: cs) then new ++ replaceFrom piece new (piece.length - 1) cs
    else c :: replaceFrom piece new 0 cs

/-- The text with each `piece`, which is not empty, replaced by `new`. -/
def replace (piece new : String) (s : String) : String :=
  .ofList (replaceFrom piece.toList new.toList 0 s.toList)

end SqlShorthand.Text
