import Mathlib.Analysis.SpecialFunctions.Pow.NthRootLemmas
import Mathlib.Data.Nat.Prime.Basic
import MeshRoutes.Digest.Sha256
import MeshRoutes.Proofs.Digest.Standard

/-!
# The constants of the hash

The table of constants and the first state are what the standard says they are: for the first
primes, the 32 bits behind the point of their cube roots and of their square roots. A word is known
to be these bits by two powers, without taking a root.

* `primes_eq`: the primes.
* `HasFraction.eq`: the bits behind the point of a root.
* `roundConstants_eq`, `words_initial`: the constants of the rounds and the first state.
-/

namespace MeshRoutes.SecureHash

/-! ## Primes -/

/-- The first 64 primes. -/
def primes : List Nat := [
  2, 3, 5, 7, 11, 13, 17, 19, 23, 29, 31, 37, 41, 43, 47, 53, 59, 61, 67, 71, 73, 79, 83, 89, 97,
  101, 103, 107, 109, 113, 127, 131, 137, 139, 149, 151, 157, 163, 167, 173, 179, 181, 191, 193,
  197, 199, 211, 223, 227, 229, 233, 239, 241, 251, 257, 263, 269, 271, 277, 281, 283, 293, 307,
  311]

/-- The numbers below a bound with a property, by their places among all that have it. -/
theorem map_nth_range_count (p : Nat → Prop) [DecidablePred p] (n : Nat) :
    (List.range (Nat.count p n)).map (Nat.nth p) = (List.range n).filter p := by
  induction n with
  | zero => rfl
  | succ n ih =>
    rw [List.range_succ, List.filter_append, ← ih, Nat.count_succ, List.filter_singleton]
    by_cases holds : p n
    · rw [if_pos holds, List.range_succ, List.map_append, List.map_singleton, Nat.nth_count holds,
        decide_eq_true holds, cond_true]
    · rw [if_neg holds, Nat.add_zero, decide_eq_false holds, cond_false, List.append_nil]

/-- A number that is not prime has a divisor up to its root. -/
theorem prime_iff_of_lt {n : Nat} (lt : n < 324) :
    Nat.Prime n ↔ 2 ≤ n ∧ ∀ m < 18, 2 ≤ m → m ∣ n → m = n := by
  constructor
  · intro prime
    refine ⟨prime.two_le, fun m _ two_le divides => ?_⟩
    exact ((Nat.dvd_prime prime).1 divides).resolve_left (by omega)
  · rintro ⟨two_le, alone⟩
    refine Nat.prime_def_le_sqrt.2 ⟨two_le, fun m two_le' le divides => ?_⟩
    have square_le : m * m ≤ n := Nat.le_sqrt.1 le
    obtain rfl := alone m (by nlinarith) two_le' divides
    nlinarith

theorem filter_prime_range : (List.range 312).filter (fun n => Nat.Prime n) = primes := by
  have by_divisors : (List.range 312).filter (fun n => Nat.Prime n) =
      (List.range 312).filter fun n => 2 ≤ n ∧ ∀ m < 18, 2 ≤ m → m ∣ n → m = n := by
    refine List.filter_congr fun n mem => decide_eq_decide.2 (prime_iff_of_lt ?_)
    exact (List.mem_range.1 mem).trans (by omega)
  -- few divisors are left to try, so all numbers can be tested
  rw [by_divisors]
  decide +kernel

theorem primes_eq : primes = (List.range 64).map (Nat.nth Nat.Prime) := by
  have nth := map_nth_range_count Nat.Prime 312
  rw [filter_prime_range] at nth
  have count : Nat.count Nat.Prime 312 = primes.length := by
    simpa using congrArg List.length nth
  rw [← nth, count]
  rfl

/-! ## Roots -/

/-- Whether a word is the first 32 bits behind the point of a root below seven. -/
def HasFraction (degree n : Nat) (fraction : UInt32) : Prop :=
  ∃ whole < 7, (whole * 2 ^ 32 + fraction.toNat) ^ degree ≤ n * 2 ^ (32 * degree) ∧
    n * 2 ^ (32 * degree) < (whole * 2 ^ 32 + fraction.toNat + 1) ^ degree

instance (degree n : Nat) (fraction : UInt32) : Decidable (HasFraction degree n fraction) :=
  inferInstanceAs (Decidable (∃ whole < 7, _ ∧ _))

/-- Two powers between which a number lies pin its root down. -/
theorem HasFraction.eq {degree n : Nat} {fraction : UInt32} (is : HasFraction degree n fraction) :
    fraction = ⟨rootFraction degree n⟩ := by
  obtain ⟨whole, -, le, lt⟩ := is
  have low : (whole * 2 ^ 32 + fraction.toNat) % 2 ^ 32 = fraction.toNat := by
    rw [Nat.mul_add_mod', Nat.mod_eq_of_lt fraction.toNat_lt]
  rw [rootFraction, Nat.nthRoot_eq_of_le_of_lt le lt, ← UInt32.toBitVec_inj,
    ← BitVec.toNat_inj, BitVec.toNat_ofNat, low, UInt32.toNat_toBitVec]

theorem eq_map_rootFraction {degree : Nat} {numbers : List Nat} {fractions : List UInt32}
    (each : List.Forall₂ (HasFraction degree) numbers fractions) :
    fractions = numbers.map fun n => ⟨rootFraction degree n⟩ := by
  induction each with
  | nil => rfl
  | cons head _ ih => rw [List.map_cons, ← head.eq, ← ih]

/-! ## Tables -/

theorem roundConstants_eq :
    Sha256.roundConstants = (List.range 64).map fun t => ⟨constant t⟩ := by
  have each : List.Forall₂ (HasFraction 3) primes Sha256.roundConstants := by decide +kernel
  rw [eq_map_rootFraction each, primes_eq, List.map_map]
  rfl

theorem words_initial : Sha256.initial.words.map UInt32.toBitVec = initial.words := by
  have each : List.Forall₂ (HasFraction 2) (primes.take 8) Sha256.initial.words := by
    decide +kernel
  rw [eq_map_rootFraction each, primes_eq, ← List.map_take, List.take_range, List.map_map,
    List.map_map]
  rfl

end MeshRoutes.SecureHash
