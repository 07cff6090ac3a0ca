/-!
# Decimal/Shortest — the fewest digits that read back as the same number

A finite double is `m · 2^q`.  The reals that round to it fill an interval around it, ends included
exactly when `m` is even.  Of the decimals in that interval `shortest` takes one with the fewest
digits, and among those the one nearest to the number.  All of it is exact arithmetic on naturals.
-/

namespace SqlShorthand.Decimal

/-- A finite double's magnitude `m · 2^q`; `binadeStart` says that the gap below is half the gap
above. -/
structure Binary where
  m : Nat
  q : Int
  binadeStart : Bool
  deriving Repr, DecidableEq

/-- The decimal `digits · 10^exponent`. -/
structure Scientific where
  digits : Nat
  exponent : Int
  deriving Repr, DecidableEq

/-- The sign bit of a double. -/
def isNegative (x : Float) : Bool := x.toBits >>> 63 == 1

/-- The first bit of a fraction, which a double does not store: `2^52`. -/
def hiddenBit : Nat := 4503599627370496

/-- The magnitude of a double, `none` for an infinity or a NaN. -/
def binary? (x : Float) : Option Binary :=
  let bits := x.toBits.toNat % 9223372036854775808
  let fraction := bits % hiddenBit
  match bits / hiddenBit with
  | 0 => some ⟨fraction, -1074, false⟩
  | 2047 => none
  | e => some ⟨hiddenBit + fraction, (e : Int) - 1075, fraction == 0 && e != 1⟩

/-- How many decimal digits a number has. -/
def width (n : Nat) : Nat := (Nat.toDigits 10 n).length

/-- `num / den` as digits on the grid `10^e`: the grid point below, what is left over, and the
unit of the grid, on one scale with the half gaps `lo` and `hi`. -/
structure Grid where
  below : Nat
  left : Nat
  unit : Nat
  lo : Nat
  hi : Nat
  closed : Bool

/-- Whether the grid point below the number reads back as it. -/
def Grid.belowReads (g : Grid) : Bool := if g.closed then g.left ≤ g.lo else g.left < g.lo

/-- Whether the grid point above the number reads back as it. -/
def Grid.aboveReads (g : Grid) : Bool :=
  if g.closed then g.unit - g.left ≤ g.hi else g.unit - g.left < g.hi

/-- The point of the grid that reads back as the number, the nearer one if both do; `tieUp` says
which of two equally near ones. -/
def Grid.pick? (g : Grid) (tieUp : Bool) : Option Nat :=
  match g.belowReads, g.aboveReads with
  | true, true =>
    if 2 * g.left < g.unit then some g.below
    else if 2 * g.left == g.unit && !tieUp && g.below % 2 == 0 then some g.below
    else some (g.below + 1)
  | true, false => some g.below
  | false, true => some (g.below + 1)
  | false, false => none

/-- The grid `10^e` around `b`.  Quarter units of `2^q` make the half gaps whole. -/
def Binary.grid (b : Binary) (e : Int) : Grid :=
  let up := Nat.pow 2 (b.q - 2).toNat * Nat.pow 10 (-e).toNat
  let unit := Nat.pow 2 (2 - b.q).toNat * Nat.pow 10 e.toNat
  let num := 4 * b.m * up
  { below := num / unit, left := num % unit, unit := unit
    lo := (if b.binadeStart then 1 else 2) * up, hi := 2 * up, closed := b.m % 2 == 0 }

/-- The exponent of the first digit, plus one: `10^(k-1) ≤ b < 10^k`. -/
def Binary.leading (b : Binary) : Int :=
  let num := b.m * Nat.pow 2 b.q.toNat
  let den := Nat.pow 2 (-b.q).toNat
  let k : Int := (width num : Int) - width den
  if num * Nat.pow 10 (-k).toNat ≥ den * Nat.pow 10 k.toNat then k + 1 else k

/-- Tries `tries` more digit counts, from `n` digits on. -/
def Binary.searchFrom (b : Binary) (tieUp : Bool) (k : Int) : Nat → Nat → Option Scientific
  | 0, _ => none
  | tries + 1, n =>
    match (b.grid (k - n)).pick? tieUp with
    | some digits => some ⟨digits, k - n⟩
    | none => b.searchFrom tieUp k tries (n + 1)

/-- A decimal with no zero at its end. -/
def Scientific.reduce : Nat → Scientific → Scientific
  | 0, s => s
  | fuel + 1, s =>
    if s.digits != 0 && s.digits % 10 == 0 then
      Scientific.reduce fuel ⟨s.digits / 10, s.exponent + 1⟩
    else s

/-- The shortest decimal that reads back as `b`; seventeen digits always suffice. -/
def Binary.shortest (b : Binary) (tieUp : Bool) : Scientific :=
  if b.m == 0 then ⟨0, 0⟩
  else
    match b.searchFrom tieUp b.leading 17 1 with
    | some s => s.reduce (width s.digits)
    | none => ⟨b.m, 0⟩

end SqlShorthand.Decimal
