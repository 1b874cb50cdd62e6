import MeshRoutes.Decimal

/-!
# Floats of 64 bits

A float is its sign and its rank, the place among the floats of that sign counted from zero; the
rank is what the bits behind the sign spell. The least floats lie one unit of `2 ^ -1074` apart.
From rank `2 ^ 53` on the distance doubles every `2 ^ 52` ranks.

## Main definitions

* `Decimal.toBits`: the float nearest to a decimal number; of two that are as near, the one of even
  rank.
* `Float64`: a finite float; `Float64.toDecimal`: the shortest decimal number that it is nearest to.
-/

namespace MeshRoutes

namespace Float64

/-- The rank behind those of all finite floats. -/
def infinityRank : Nat := 0x7FF0000000000000

/-- How often the distance to the next float has doubled. -/
def doublings (rank : Nat) : Nat := rank / 4503599627370496 - 1

/-- The magnitude of the float of a rank, in units. -/
def units (rank : Nat) : Nat :=
  (rank - doublings rank * 4503599627370496) * Nat.pow 2 (doublings rank)

/-- How often one is halved to get to a unit. -/
def unitPlaces : Nat := 1074

/-- A quotient rounded to the nearest whole number; of two that are as near, to the even one. -/
def roundedQuotient (n d : Nat) : Nat :=
  let below := n / d
  let rest := n % d
  if 2 * rest < d || (2 * rest == d && below % 2 == 0) then below else below + 1

/-- The rank of the float nearest to a quotient of units. A quotient that is rounded up to the next
power of two has the rank at which the distance doubles. -/
def nearestRank (n d : Nat) : Nat :=
  let doublings := (n / d).log2 - 52
  doublings * 4503599627370496 + roundedQuotient n (d * Nat.pow 2 doublings)

end Float64

namespace Decimal

open Float64 (infinityRank nearestRank unitPlaces)

/-- The rank of the nearest float. A magnitude far below the least float has rank zero, and the
rank of one far above the greatest is not told. -/
def rank (x : Decimal) : Nat :=
  if x.digits == 0 || x.magnitude < -350 then 0
  else if 310 < x.magnitude then infinityRank
  else nearestRank (x.digits * Nat.pow 10 x.exponent.toNat * Nat.pow 2 unitPlaces)
    (Nat.pow 10 (-x.exponent).toNat)

/-- The bits of the nearest float, which is infinite if there is no finite one. -/
def toBits (x : Decimal) : UInt64 :=
  UInt64.ofNat ((if x.negative then 0x8000000000000000 else 0) + min x.rank infinityRank)

end Decimal

/-- The rank of the float with the given bits. -/
def Float64.rankOf (bits : UInt64) : Nat := bits.toNat % 0x8000000000000000

/-- A finite float, by its bits. -/
structure Float64 where
  bits : UInt64
  isFinite : Float64.rankOf bits < Float64.infinityRank
deriving DecidableEq, Repr

namespace Float64

/-- The finite float with the given bits, if there is one. -/
def ofBits? (bits : UInt64) : Option Float64 :=
  if isFinite : rankOf bits < infinityRank then some ⟨bits, isFinite⟩ else none

/-- Whether the sign is a minus. -/
def isNegative (x : Float64) : Bool := 0x8000000000000000 ≤ x.bits.toNat

/-- The digits of a unit. To halve is to multiply by five and to divide by ten. -/
def unitDigits : Nat := Nat.pow 5 unitPlaces

/-- The number that a float is, with all its digits. -/
def exactDecimal (x : Float64) : Decimal where
  negative := x.isNegative
  digits := units (rankOf x.bits) * unitDigits
  exponent := -unitPlaces

/-- The two numbers of the given number of digits between which a float lies, the nearer one
first. -/
def neighbours (x : Float64) (places : Nat) : List Decimal :=
  let digits := Text.decimalDigits x.exactDecimal.digits
  let below := Text.decimalValue (digits.take places)
  let exponent : Int := (digits.length - places : Nat) - unitPlaces
  let number (n : Nat) := Decimal.ofDigits x.isNegative (Text.decimalDigits n) exponent
  if digits[places]?.any ('5' ≤ ·) then [number (below + 1), number below]
  else [number below, number (below + 1)]

/-- The number with the fewest digits to which a float is nearest, and of two the one that is nearer
to it. Seventeen digits tell all floats apart. -/
def toDecimal (x : Float64) : Decimal :=
  let shortest := ((List.range' 1 17).flatMap x.neighbours).find? (·.toBits == x.bits)
  shortest.getD x.exactDecimal

end Float64

end MeshRoutes
