/-!
# Numerals

Digits in base ten and sixteen, as characters and as values.

## Main definitions

* `Text.decimalDigits`, `Text.intText`: the decimal text of a number, without leading zeros.
* `Text.digitsValue?`: the number a list of digits in some base denotes.
* `Text.hexDigit`, `Text.hexValue?`: one lowercase hexadecimal digit and back.
-/

namespace MeshRoutes.Text

/-- The decimal digits of a natural number, most significant first. -/
def decimalDigits (n : Nat) : List Char := Nat.toDigits 10 n

/-- The decimal text of an integer. -/
def intText : Int → String
  | .ofNat n => String.ofList (decimalDigits n)
  | .negSucc n => String.ofList ('-' :: decimalDigits (n + 1))

/-- The decimal text of a natural number. -/
def natText (n : Nat) : String := String.ofList (decimalDigits n)

/-- The lowercase hexadecimal digit of a value below sixteen. -/
def hexDigit (n : Nat) : Char :=
  if n < 10 then Char.ofNat (48 + n) else Char.ofNat (87 + n)

/-- The uppercase hexadecimal digit of a value below sixteen. -/
def upperHexDigit (n : Nat) : Char :=
  if n < 10 then Char.ofNat (48 + n) else Char.ofNat (55 + n)

/-- The value of a hexadecimal digit of either case. -/
def hexValue? (c : Char) : Option Nat :=
  if '0' ≤ c ∧ c ≤ '9' then some (c.toNat - 48)
  else if 'a' ≤ c ∧ c ≤ 'f' then some (c.toNat - 87)
  else if 'A' ≤ c ∧ c ≤ 'F' then some (c.toNat - 55)
  else none

/-- The value of a digit in the given base of at most sixteen. -/
def digitValue? (base : Nat) (c : Char) : Option Nat :=
  (hexValue? c).filter (· < base)

/-- The number a nonempty list of digits in the given base denotes. -/
def digitsValue? (base : Nat) (digits : List Char) : Option Nat :=
  if digits.isEmpty then none
  else digits.foldlM (fun value c => (digitValue? base c).map (base * value + ·)) 0

/-- The number that a list of decimal digits denotes; other characters count as zero. -/
def decimalValue (digits : List Char) : Nat :=
  digits.foldl (fun value c => 10 * value + (c.toNat - 48)) 0

end MeshRoutes.Text
