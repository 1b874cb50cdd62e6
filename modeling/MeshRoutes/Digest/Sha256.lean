import MeshRoutes.Text.Numeral

/-!
# SHA-256

The 256-bit secure hash of a sequence of bytes, and its hexadecimal text.

## Main definitions

* `Sha256.pad`: the message behind which a bit, zeros and the length fill the last block.
* `Sha256.compress`: the step that mixes one block into the state.
* `Sha256.digest`: the 32 bytes of the hash.
* `Sha256.hex`: the digest of a text in UTF-8, as 64 lowercase hexadecimal digits.
-/

namespace MeshRoutes.Sha256

/-- The round constants: the first 32 bits behind the point of the cube roots of the first 64
primes. -/
def roundConstants : List UInt32 := [
  0x428a2f98, 0x71374491, 0xb5c0fbcf, 0xe9b5dba5, 0x3956c25b, 0x59f111f1, 0x923f82a4, 0xab1c5ed5,
  0xd807aa98, 0x12835b01, 0x243185be, 0x550c7dc3, 0x72be5d74, 0x80deb1fe, 0x9bdc06a7, 0xc19bf174,
  0xe49b69c1, 0xefbe4786, 0x0fc19dc6, 0x240ca1cc, 0x2de92c6f, 0x4a7484aa, 0x5cb0a9dc, 0x76f988da,
  0x983e5152, 0xa831c66d, 0xb00327c8, 0xbf597fc7, 0xc6e00bf3, 0xd5a79147, 0x06ca6351, 0x14292967,
  0x27b70a85, 0x2e1b2138, 0x4d2c6dfc, 0x53380d13, 0x650a7354, 0x766a0abb, 0x81c2c92e, 0x92722c85,
  0xa2bfe8a1, 0xa81a664b, 0xc24b8b70, 0xc76c51a3, 0xd192e819, 0xd6990624, 0xf40e3585, 0x106aa070,
  0x19a4c116, 0x1e376c08, 0x2748774c, 0x34b0bcb5, 0x391c0cb3, 0x4ed8aa4a, 0x5b9cca4f, 0x682e6ff3,
  0x748f82ee, 0x78a5636f, 0x84c87814, 0x8cc70208, 0x90befffa, 0xa4506ceb, 0xbef9a3f7, 0xc67178f2]

/-- The eight working words. -/
structure State where
  a : UInt32
  b : UInt32
  c : UInt32
  d : UInt32
  e : UInt32
  f : UInt32
  g : UInt32
  h : UInt32
deriving DecidableEq, Repr

/-- The state before the first block: the first 32 bits behind the point of the square roots of
the first eight primes. -/
def initial : State :=
  ⟨0x6a09e667, 0xbb67ae85, 0x3c6ef372, 0xa54ff53a, 0x510e527f, 0x9b05688c, 0x1f83d9ab, 0x5be0cd19⟩

/-- The words of a state in order. -/
def State.words (s : State) : List UInt32 := [s.a, s.b, s.c, s.d, s.e, s.f, s.g, s.h]

/-- The sum of two states, word by word. -/
def State.add (s t : State) : State :=
  ⟨s.a + t.a, s.b + t.b, s.c + t.c, s.d + t.d, s.e + t.e, s.f + t.f, s.g + t.g, s.h + t.h⟩

/-! ## Words -/

/-- The word turned to the right. -/
def rotateRight (x : UInt32) (n : UInt32) : UInt32 := (x >>> n) ||| (x <<< (32 - n))

/-- The bits of `y` where `x` is set, those of `z` elsewhere. -/
def choose (x y z : UInt32) : UInt32 := (x &&& y) ^^^ (~~~x &&& z)

/-- The bits that at least two of the three words have. -/
def majority (x y z : UInt32) : UInt32 := (x &&& y) ^^^ (x &&& z) ^^^ (y &&& z)

/-- The mixing of the first working word in a round. -/
def upperMix (x : UInt32) : UInt32 := rotateRight x 2 ^^^ rotateRight x 13 ^^^ rotateRight x 22

/-- The mixing of the fifth working word in a round. -/
def lowerMix (x : UInt32) : UInt32 := rotateRight x 6 ^^^ rotateRight x 11 ^^^ rotateRight x 25

/-- The mixing of the schedule word fifteen places back. -/
def farMix (x : UInt32) : UInt32 := rotateRight x 7 ^^^ rotateRight x 18 ^^^ (x >>> 3)

/-- The mixing of the schedule word two places back. -/
def nearMix (x : UInt32) : UInt32 := rotateRight x 17 ^^^ rotateRight x 19 ^^^ (x >>> 10)

/-! ## Messages -/

/-- The eight bytes of a number, most significant first. -/
def lengthBytes (n : Nat) : List UInt8 :=
  [56, 48, 40, 32, 24, 16, 8, 0].map fun shift => UInt8.ofNat (n >>> shift % 256)

/-- The message with a set bit, zeros and its length in bits behind it: whole blocks of 64 bytes. -/
def pad (message : List UInt8) : List UInt8 :=
  message ++ [0x80] ++ List.replicate ((119 - message.length % 64) % 64) 0 ++
    lengthBytes (8 * message.length)

/-- The words that bytes make up, four bytes each, most significant first. -/
def wordsOf : List UInt8 → List UInt32
  | a :: b :: c :: d :: bytes =>
    (a.toUInt32 <<< 24 ||| b.toUInt32 <<< 16 ||| c.toUInt32 <<< 8 ||| d.toUInt32) :: wordsOf bytes
  | _ => []

/-- The blocks of sixteen words. -/
def blocksOf (words : List UInt32) : List (List UInt32) :=
  if words.length < 16 then [] else words.take 16 :: blocksOf (words.drop 16)
termination_by words.length
decreasing_by simp; omega

/-- The schedule extended by a number of words; the newest word stands first. -/
def extendSchedule : Nat → List UInt32 → List UInt32
  | 0, newestFirst => newestFirst
  | n + 1, newestFirst =>
    let next := nearMix (newestFirst.getD 1 0) + newestFirst.getD 6 0 +
      farMix (newestFirst.getD 14 0) + newestFirst.getD 15 0
    extendSchedule n (next :: newestFirst)

/-- The 64 words that the rounds of a block use. -/
def schedule (block : List UInt32) : List UInt32 := (extendSchedule 48 block.reverse).reverse

/-- One round, with its constant and its schedule word. -/
def round (s : State) (constant word : UInt32) : State :=
  let first := s.h + lowerMix s.e + choose s.e s.f s.g + constant + word
  let second := upperMix s.a + majority s.a s.b s.c
  ⟨first + second, s.a, s.b, s.c, s.d + first, s.e, s.f, s.g⟩

/-- The state after a block. -/
def compress (s : State) (block : List UInt32) : State :=
  s.add ((roundConstants.zip (schedule block)).foldl (fun t (k, w) => round t k w) s)

/-- The four bytes of a word, most significant first. -/
def wordBytes (x : UInt32) : List UInt8 :=
  [(x >>> 24).toUInt8, (x >>> 16).toUInt8, (x >>> 8).toUInt8, x.toUInt8]

/-- The hash of a sequence of bytes. -/
def digest (message : List UInt8) : List UInt8 :=
  ((blocksOf (wordsOf (pad message))).foldl compress initial).words.flatMap wordBytes

/-- The two lowercase hexadecimal digits of a byte. -/
def hexByte (byte : UInt8) : List Char :=
  [Text.hexDigit (byte.toNat / 16), Text.hexDigit (byte.toNat % 16)]

/-- The hash of a text in UTF-8, in hexadecimal. -/
def hex (text : String) : String :=
  String.ofList ((digest text.toUTF8.data.toList).flatMap hexByte)

end MeshRoutes.Sha256
