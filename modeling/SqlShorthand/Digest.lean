/-!
# Digest — SHA-1

The message is padded to whole blocks of 64 bytes; each block is spread over eighty words and
folded into five.
-/

namespace SqlShorthand.Digest

/-- The five words carried from block to block. -/
structure State where
  a : UInt32
  b : UInt32
  c : UInt32
  d : UInt32
  e : UInt32
  deriving Repr, DecidableEq

/-- The state before the first block. -/
def State.initial : State := ⟨0x67452301, 0xEFCDAB89, 0x98BADCFE, 0x10325476, 0xC3D2E1F0⟩

/-- Rotation to the left by `n`, between 1 and 31. -/
def rotate (x : UInt32) (n : UInt32) : UInt32 := (x <<< n) ||| (x >>> (32 - n))

/-- The `width` low bytes of a number, the highest first. -/
def bytesOf : Nat → Nat → List UInt8
  | 0, _ => []
  | width + 1, n => UInt8.ofNat (n / Nat.pow 256 width) :: bytesOf width n

/-- The message, a marker bit, zeros, and the message's length in bits: whole blocks. -/
def padded (message : List UInt8) : List UInt8 :=
  let n := message.length
  message ++ 0x80 :: List.replicate ((119 - n % 64) % 64) 0 ++ bytesOf 8 (8 * n)

/-- Four bytes as one word, the highest first. -/
def wordsOf : List UInt8 → List UInt32
  | a :: b :: c :: d :: rest =>
    ((a.toUInt32 <<< 24) ||| (b.toUInt32 <<< 16) ||| (c.toUInt32 <<< 8) ||| d.toUInt32) ::
      wordsOf rest
  | _ => []

/-- `count` further words of the schedule, each from the sixteen words before it. -/
def extendSchedule : Nat → List UInt32 → List UInt32
  | 0, _ => []
  | count + 1, window =>
    let w := rotate (window.getD 13 0 ^^^ window.getD 8 0 ^^^ window.getD 2 0 ^^^ window.getD 0 0) 1
    w :: extendSchedule count (window.drop 1 ++ [w])

/-- The eighty words of a block. -/
def schedule (block : List UInt32) : List UInt32 := block ++ extendSchedule 64 block

/-- The mixing function and the constant of round `t`. -/
def mix (t : Nat) (b c d : UInt32) : UInt32 × UInt32 :=
  if t < 20 then ((b &&& c) ||| (~~~b &&& d), 0x5A827999)
  else if t < 40 then (b ^^^ c ^^^ d, 0x6ED9EBA1)
  else if t < 60 then ((b &&& c) ||| (b &&& d) ||| (c &&& d), 0x8F1BBCDC)
  else (b ^^^ c ^^^ d, 0xCA62C1D6)

/-- One round with the schedule's word `w`. -/
def round (s : State) (w : UInt32) (t : Nat) : State :=
  let (f, k) := mix t s.b s.c s.d
  ⟨rotate s.a 5 + f + s.e + k + w, s.a, rotate s.b 30, s.c, s.d⟩

/-- The rounds from round `t` on. -/
def rounds (s : State) (t : Nat) : List UInt32 → State
  | [] => s
  | w :: ws => rounds (round s w t) (t + 1) ws

/-- One block folded into the state. -/
def absorb (s : State) (block : List UInt32) : State :=
  let r := rounds s 0 (schedule block)
  ⟨s.a + r.a, s.b + r.b, s.c + r.c, s.d + r.d, s.e + r.e⟩

/-- The state after `count` blocks of words. -/
def absorbBlocks (s : State) : Nat → List UInt32 → State
  | 0, _ => s
  | count + 1, ws => absorbBlocks (absorb s (ws.take 16)) count (ws.drop 16)

/-- A digit in base sixteen, in small letters. -/
def hexDigit (n : Nat) : Char := Nat.digitChar (n % 16)

/-- A byte as two digits in base sixteen. -/
def hexByte (b : UInt8) : List Char := [hexDigit (b.toNat / 16), hexDigit b.toNat]

/-- The twenty bytes of the digest. -/
def sha1 (message : List UInt8) : List UInt8 :=
  let ws := wordsOf (padded message)
  let s := absorbBlocks .initial (ws.length / 16) ws
  [s.a, s.b, s.c, s.d, s.e].flatMap fun w => bytesOf 4 w.toNat

/-- The digest in base sixteen: forty digits. -/
def sha1Hex (message : List UInt8) : String := .ofList ((sha1 message).flatMap hexByte)

end SqlShorthand.Digest
