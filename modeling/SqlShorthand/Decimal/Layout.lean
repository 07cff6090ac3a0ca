import SqlShorthand.Decimal.Shortest

/-!
# Decimal/Layout — digits as text

Where the point goes, when an exponent is written, and what stands for the values that are not
finite are decisions of the format that prints; `Layout` holds them.
-/

namespace SqlShorthand.Decimal

/-- The decisions of a number format. -/
structure Layout where
  /-- Whether a number whose first digit stands at `10^(k-1)` is written without an exponent. -/
  positional : Int → Bool
  /-- Whether a whole number keeps a point and a zero. -/
  wholePoint : Bool
  /-- Which of two equally near shortest decimals is written. -/
  tieUp : Bool
  notANumber : String
  infinity : String

/-- The digits with a point before the digit of `10^(k-1)`, no exponent. -/
def pointed (wholePoint : Bool) (digits : List Char) (k : Int) : List Char :=
  let n := digits.length
  if k ≤ 0 then '0' :: '.' :: List.replicate (-k).toNat '0' ++ digits
  else if k.toNat < n then digits.take k.toNat ++ '.' :: digits.drop k.toNat
  else digits ++ List.replicate (k.toNat - n) '0' ++ (if wholePoint then ['.', '0'] else [])

/-- One digit, a point if more follow, and the exponent with its sign. -/
def exponential (digits : List Char) (k : Int) : List Char :=
  let e := k - 1
  digits.take 1 ++ (if digits.length > 1 then '.' :: digits.drop 1 else []) ++
    'e' :: (if e < 0 then '-' else '+') :: Nat.toDigits 10 e.natAbs

/-- The text of a double in a format. -/
def Layout.text (f : Layout) (x : Float) : String :=
  let sign := if isNegative x then ['-'] else []
  match binary? x with
  | some b =>
    let s := b.shortest f.tieUp
    let digits := Nat.toDigits 10 s.digits
    let k := if b.m == 0 then 1 else (digits.length : Int) + s.exponent
    .ofList (sign ++ if f.positional k then pointed f.wholePoint digits k else exponential digits k)
  | none => if x != x then f.notANumber else .ofList (sign ++ f.infinity.toList)

/-- Numbers in SQL, logs and keys: never an exponent, whole numbers without a point. -/
def plain : Layout :=
  { positional := fun _ => true, wholePoint := false, tieUp := true
    notANumber := "NaN", infinity := "inf" }

end SqlShorthand.Decimal
