import Mathlib.Data.Nat.Find
import Mathlib.Data.Nat.NthRoot.Defs
import Mathlib.Data.Nat.Nth
import Mathlib.Data.Nat.Prime.Defs

/-!
# The secure hash as its standard has it

The standard hashes messages of bits. It has no tables and no loops: the constants are fractions of
roots of primes, the words of a schedule and the variables of the rounds are given by recurrences,
and a block is a place in the padded message.

* `SecureHash.pad`: the message that is cut into blocks.
* `SecureHash.scheduleWord`, `SecureHash.rounds`: what happens to a block.
* `SecureHash.digest`: the 256 bits of the hash.
-/

namespace MeshRoutes.SecureHash

/-! ## Bits -/

/-- The last bits of a number, the most significant first. -/
def bits : Nat → Nat → List Bool
  | 0, _ => []
  | width + 1, n => n.testBit width :: bits width n

/-- The number that bits denote, the most significant first. -/
def value (message : List Bool) : Nat := message.foldl (fun n bit => 2 * n + bit.toNat) 0

/-- One of the fields of equal width that a message consists of, as a number. -/
def field (width : Nat) (message : List Bool) (n : Nat) : Nat :=
  value ((message.drop (width * n)).take width)

/-- The bits of bytes. -/
def ofBytes (bytes : List UInt8) : List Bool := bytes.flatMap fun byte => bits 8 byte.toNat

/-- The bytes that a message consists of. -/
def toBytes (message : List Bool) : List UInt8 :=
  (List.range (message.length / 8)).map fun n => UInt8.ofNat (field 8 message n)

/-! ## Padding -/

theorem exists_zeros (length : Nat) : ∃ zeros, (length + 1 + zeros) % 512 = 448 :=
  ⟨447 + 511 * length, by omega⟩

/-- The fewest zeros that, behind a message and one more bit, leave 64 bits of a block of 512. -/
def zeroCount (length : Nat) : Nat := Nat.find (exists_zeros length)

/-- The message with a set bit, zeros and its length behind it. -/
def pad (message : List Bool) : List Bool :=
  message ++ true :: List.replicate (zeroCount message.length) false ++ bits 64 message.length

/-! ## Words -/

/-- A word of a message. -/
def wordAt (message : List Bool) (n : Nat) : BitVec 32 := BitVec.ofNat 32 (field 32 message n)

/-- The first 32 bits behind the point of a root of a number. -/
def rootFraction (degree n : Nat) : BitVec 32 :=
  BitVec.ofNat 32 (Nat.nthRoot degree (n * 2 ^ (32 * degree)))

/-- The constant of a round. -/
noncomputable def constant (t : Nat) : BitVec 32 := rootFraction 3 (Nat.nth Nat.Prime t)

/-- The bits of `y` where `x` is set, those of `z` elsewhere. -/
def choose (x y z : BitVec 32) : BitVec 32 := (x &&& y) ^^^ (~~~x &&& z)

/-- The bits that at least two of the three words have. -/
def majority (x y z : BitVec 32) : BitVec 32 := (x &&& y) ^^^ (x &&& z) ^^^ (y &&& z)

/-- The mixing of the first variable. -/
def upperMix (x : BitVec 32) : BitVec 32 :=
  x.rotateRight 2 ^^^ x.rotateRight 13 ^^^ x.rotateRight 22

/-- The mixing of the fifth variable. -/
def lowerMix (x : BitVec 32) : BitVec 32 :=
  x.rotateRight 6 ^^^ x.rotateRight 11 ^^^ x.rotateRight 25

/-- The mixing of the schedule word fifteen places back. -/
def farMix (x : BitVec 32) : BitVec 32 := x.rotateRight 7 ^^^ x.rotateRight 18 ^^^ (x >>> 3)

/-- The mixing of the schedule word two places back. -/
def nearMix (x : BitVec 32) : BitVec 32 := x.rotateRight 17 ^^^ x.rotateRight 19 ^^^ (x >>> 10)

/-! ## Blocks -/

/-- The eight variables of a round, and the eight words of a hash value. -/
@[ext]
structure Variables where
  a : BitVec 32
  b : BitVec 32
  c : BitVec 32
  d : BitVec 32
  e : BitVec 32
  f : BitVec 32
  g : BitVec 32
  h : BitVec 32

/-- The variables in order. -/
def Variables.words (v : Variables) : List (BitVec 32) := [v.a, v.b, v.c, v.d, v.e, v.f, v.g, v.h]

/-- The sum of variables, word by word. -/
def Variables.add (v w : Variables) : Variables :=
  ⟨v.a + w.a, v.b + w.b, v.c + w.c, v.d + w.d, v.e + w.e, v.f + w.f, v.g + w.g, v.h + w.h⟩

/-- One round. -/
def Variables.round (v : Variables) (constant word : BitVec 32) : Variables :=
  let first := v.h + lowerMix v.e + choose v.e v.f v.g + constant + word
  let second := upperMix v.a + majority v.a v.b v.c
  { h := v.g, g := v.f, f := v.e, e := v.d + first, d := v.c, c := v.b, b := v.a,
    a := first + second }

/-- A word of the schedule of a block. -/
def scheduleWord (block : Nat → BitVec 32) (t : Nat) : BitVec 32 :=
  if t < 16 then block t
  else
    nearMix (scheduleWord block (t - 2)) + scheduleWord block (t - 7) +
      farMix (scheduleWord block (t - 15)) + scheduleWord block (t - 16)

/-- The variables behind the first rounds of a block. -/
noncomputable def rounds (block : Nat → BitVec 32) (start : Variables) : Nat → Variables
  | 0 => start
  | t + 1 => (rounds block start t).round (constant t) (scheduleWord block t)

/-! ## Messages -/

/-- The hash value before the first block: fractions of the square roots of the first primes. -/
noncomputable def initial : Variables where
  a := rootFraction 2 (Nat.nth Nat.Prime 0)
  b := rootFraction 2 (Nat.nth Nat.Prime 1)
  c := rootFraction 2 (Nat.nth Nat.Prime 2)
  d := rootFraction 2 (Nat.nth Nat.Prime 3)
  e := rootFraction 2 (Nat.nth Nat.Prime 4)
  f := rootFraction 2 (Nat.nth Nat.Prime 5)
  g := rootFraction 2 (Nat.nth Nat.Prime 6)
  h := rootFraction 2 (Nat.nth Nat.Prime 7)

/-- The words of a block of a padded message. -/
def blockAt (padded : List Bool) (i t : Nat) : BitVec 32 := wordAt padded (16 * i + t)

/-- The hash value behind the first blocks of a padded message. -/
noncomputable def hashValue (padded : List Bool) : Nat → Variables
  | 0 => initial
  | i + 1 => (rounds (blockAt padded i) (hashValue padded i) 64).add (hashValue padded i)

/-- The hash of a message. -/
noncomputable def digest (message : List Bool) : List Bool :=
  (hashValue (pad message) ((pad message).length / 512)).words.flatMap fun word =>
    bits 32 word.toNat

end MeshRoutes.SecureHash
