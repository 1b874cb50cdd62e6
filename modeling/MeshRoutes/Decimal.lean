import MeshRoutes.Text.Numeral

/-!
# Decimal numbers

Numbers written with a fraction or an exponent, kept exactly.

## Main definitions

* `Decimal.ofDigits`: the number that digits and a power of ten denote, in lowest terms.
* `Decimal.isFinite`: whether a 64-bit float is near enough to hold it.
* `Decimal.toText`: the written form.
-/

namespace MeshRoutes

/-- The number `± digits · 10 ^ exponent`. Zero has a sign too. -/
structure Decimal where
  negative : Bool
  digits : Nat
  exponent : Int
deriving DecidableEq, Repr

namespace Decimal

/-- The number with as few digits as its value has; zero has exponent zero. -/
def ofDigits (negative : Bool) (digits : List Char) (exponent : Int) : Decimal :=
  let kept := (digits.reverse.dropWhile (· == '0')).reverse
  if kept.isEmpty then ⟨negative, 0, 0⟩
  else ⟨negative, Text.decimalValue kept, exponent + (digits.length - kept.length : Nat)⟩

/-- The exponent of the first power of ten that is larger than the magnitude. -/
def magnitude (x : Decimal) : Int := x.exponent + (Text.decimalDigits x.digits).length

/-- Whether the magnitude rounds to a finite 64-bit float: it lies below `2^1024 - 2^970`. -/
def isFinite (x : Decimal) : Bool :=
  if x.digits == 0 || x.magnitude ≤ 308 then true
  else if x.magnitude > 310 then false
  else
    x.digits * Nat.pow 10 x.exponent.toNat <
      (Nat.pow 2 1024 - Nat.pow 2 970) * Nat.pow 10 (-x.exponent).toNat

/-- The number with the point set among its digits, or behind the first digit and with an exponent
when it is far away. Without an exponent, at least one digit stands on each side of the point. -/
def toText (x : Decimal) : String :=
  let digits := Text.decimalDigits x.digits
  let sign := if x.negative then "-" else ""
  let point := x.magnitude
  if 0 ≤ x.exponent && point ≤ 16 then
    sign ++ String.ofList (digits ++ List.replicate x.exponent.toNat '0') ++ ".0"
  else if 0 < point && point ≤ 16 then
    sign ++ String.ofList (digits.take point.toNat) ++ "." ++
      String.ofList (digits.drop point.toNat)
  else if -5 < point && point ≤ 0 then
    sign ++ "0." ++ String.ofList (List.replicate (-point).toNat '0' ++ digits)
  else
    let fraction := if digits.length = 1 then [] else '.' :: digits.drop 1
    sign ++ String.ofList (digits.take 1 ++ fraction) ++ "e" ++ Text.intText (point - 1)

end Decimal

end MeshRoutes
