import MeshRoutes.Proofs.Route.Weights

/-!
# Weights without rounding

Weights are words of 32 bits, and there may be more destinations than such a word counts. The even
split loses nothing all the same: its shares make up the whole for every number of destinations, and
no step of it leaves the words or divides by zero.

* `checkedEvenWeights?`: the even split in arithmetic that stops where a result is no word.
* `IsEvenSplit`: the shares of an even split, as exact numbers.
* `ResolvesExactly`: the weights of destinations, or what is wrong with them, by exact sums.
-/

namespace MeshRoutes

/-! ## Arithmetic that stops -/

/-- The sum of two words, if it is a word. -/
def checkedSum? (x y : UInt32) : Option UInt32 :=
  if x.toNat + y.toNat < 2 ^ 32 then some (x + y) else none

/-- The difference of two words, if the second is not above the first. -/
def checkedDifference? (x y : UInt32) : Option UInt32 :=
  if y.toNat ≤ x.toNat then some (x - y) else none

/-- The product of two words, if it is a word. -/
def checkedProduct? (x y : UInt32) : Option UInt32 :=
  if x.toNat * y.toNat < 2 ^ 32 then some (x * y) else none

/-- The quotient of two words, if the second is not zero. -/
def checkedQuotient? (x y : UInt32) : Option UInt32 := if y = 0 then none else some (x / y)

/-- The even split, unless a step of it stops. -/
def checkedEvenWeights? (count : Nat) : Option (List UInt32) :=
  match count with
  | 0 => some []
  | others + 1 => do
    let n := UInt32.ofNat (min count 4294967295)
    let share ← checkedQuotient? weightTotal n
    let given ← checkedProduct? share n
    let rest ← checkedDifference? weightTotal given
    let first ← checkedSum? share rest
    return first :: List.replicate others share

/-- Whether weights are the shares of an even split among a number of destinations: each has its
share rounded down, and the first has all that the others do not have. -/
structure IsEvenSplit (count : Nat) (weights : List UInt32) : Prop where
  length_eq : weights.length = count
  shares : count ≠ 0 → ∃ first share, weights = first :: List.replicate (count - 1) share ∧
    first.toNat = 100 - (count - 1) * (100 / count) ∧ share.toNat = 100 / count
  sum : count ≠ 0 → (weights.map UInt32.toNat).sum = 100

/-- Whether a result is what the weights of the destinations of the named route come to. Where none
is given, the whole is split evenly, and no step of that stops. Where all are given and make up the
whole, they stay as they are. Where some are given and some are not, that is what is wrong, whatever
they are. Where all are given, at least one, and do not make up the whole, it is their sum, cut at
32 bits. -/
structure ResolvesExactly (route : String) (destinations : List Destination)
    (result : Except Reason (List UInt32)) : Prop where
  absent : (∀ destination ∈ destinations, destination.weight = none) →
    ∃ weights, result = .ok weights ∧ IsEvenSplit destinations.length weights ∧
      checkedEvenWeights? destinations.length = some weights
  given : ∀ weights : List UInt32, destinations.map (·.weight) = weights.map some →
    (weights.map UInt32.toNat).sum = 100 → result = .ok weights
  mixed : HaveMixedWeights destinations → result = .error (.weightPresenceMismatch route)
  wrong : ∀ weights : List UInt32, weights ≠ [] → destinations.map (·.weight) = weights.map some →
    (weights.map UInt32.toNat).sum ≠ 100 → ∃ sum, result = .error (.weightSumInvalid route sum) ∧
      sum.toNat = min (weights.map UInt32.toNat).sum (2 ^ 32 - 1)

/-! ## The even split -/

section Split

variable (others : Nat)

/-- The number by which the whole is divided: that of the destinations, or the largest word. -/
def evenDivisor : UInt32 := UInt32.ofNat (min (others + 1) 4294967295)

/-- The share of each destination but the first. -/
def evenShare : UInt32 := weightTotal / evenDivisor others

/-- What the division leaves over. The first destination has it besides its share. -/
def evenRest : UInt32 := weightTotal - evenShare others * evenDivisor others

theorem evenWeights_succ : evenWeights (others + 1) =
    (evenShare others + evenRest others) :: List.replicate others (evenShare others) := rfl

theorem toNat_evenDivisor : (evenDivisor others).toNat = min (others + 1) 4294967295 :=
  UInt32.toNat_ofNat_of_lt' (by unfold UInt32.size; omega)

theorem evenDivisor_ne_zero : evenDivisor others ≠ 0 := by
  intro zero
  have divisor := toNat_evenDivisor others
  rw [zero, UInt32.toNat_zero] at divisor
  omega

/-- Where the number of destinations is no word, it is so large that there is no share. -/
theorem toNat_evenShare : (evenShare others).toNat = 100 / (others + 1) := by
  have quotient : (evenShare others).toNat = 100 / min (others + 1) 4294967295 := by
    rw [evenShare, UInt32.toNat_div, toNat_evenDivisor]
    rfl
  rw [quotient]
  by_cases fits : others + 1 ≤ 4294967295
  · rw [Nat.min_eq_left fits]
  · rw [Nat.min_eq_right (by omega), Nat.div_eq_of_lt (by omega), Nat.div_eq_of_lt (by omega)]

theorem share_mul_divisor_le :
    (evenShare others).toNat * (evenDivisor others).toNat ≤ 100 := by
  rw [evenShare, UInt32.toNat_div]
  exact Nat.div_mul_le_self 100 _

theorem toNat_share_mul_divisor : (evenShare others * evenDivisor others).toNat =
    (evenShare others).toNat * (evenDivisor others).toNat := by
  have le := share_mul_divisor_le others
  rw [UInt32.toNat_mul, Nat.mod_eq_of_lt (by omega)]

theorem share_mul_divisor_le_weightTotal :
    (evenShare others * evenDivisor others).toNat ≤ weightTotal.toNat := by
  rw [toNat_share_mul_divisor]
  exact share_mul_divisor_le others

theorem toNat_evenRest : (evenRest others).toNat =
    100 - (evenShare others).toNat * (evenDivisor others).toNat := by
  have le := UInt32.le_iff_toNat_le.2 (share_mul_divisor_le_weightTotal others)
  rw [evenRest, UInt32.toNat_sub_of_le _ _ le, toNat_share_mul_divisor]
  rfl

/-- The first share and what is left over are far below the largest word. -/
theorem share_add_rest_le : (evenShare others).toNat + (evenRest others).toNat ≤ 200 := by
  have share_le : 100 / (others + 1) ≤ 100 := Nat.div_le_self _ _
  rw [toNat_evenRest, toNat_evenShare]
  omega

/-- No step of the even split stops. -/
theorem checkedEvenWeights?_eq (count : Nat) :
    checkedEvenWeights? count = some (evenWeights count) := by
  cases count with
  | zero => rfl
  | succ others =>
    have product := share_mul_divisor_le others
    have sum := share_add_rest_le others
    have quotient : checkedQuotient? weightTotal (evenDivisor others) =
        some (evenShare others) := if_neg (evenDivisor_ne_zero others)
    have given : checkedProduct? (evenShare others) (evenDivisor others) =
        some (evenShare others * evenDivisor others) := if_pos (by omega)
    have rest : checkedDifference? weightTotal (evenShare others * evenDivisor others) =
        some (evenRest others) := if_pos (share_mul_divisor_le_weightTotal others)
    have first : checkedSum? (evenShare others) (evenRest others) =
        some (evenShare others + evenRest others) := if_pos (by omega)
    rw [evenWeights_succ, checkedEvenWeights?, ← evenDivisor, quotient, Option.bind_eq_bind,
      Option.bind_some, given, Option.bind_some, rest, Option.bind_some, first]
    rfl

/-- The first has what the others leave. -/
theorem toNat_first_add :
    (evenShare others + evenRest others).toNat + others * (100 / (others + 1)) = 100 := by
  have sum := share_add_rest_le others
  rw [UInt32.toNat_add, Nat.mod_eq_of_lt (by omega), toNat_evenRest, toNat_evenShare,
    toNat_evenDivisor]
  by_cases fits : others + 1 ≤ 4294967295
  · have given : 100 / (others + 1) * (others + 1) ≤ 100 := Nat.div_mul_le_self _ _
    rw [Nat.min_eq_left fits, Nat.mul_comm others]
    rw [Nat.mul_succ] at given ⊢
    omega
  · have none : 100 / (others + 1) = 0 := Nat.div_eq_of_lt (by omega)
    simp only [none, Nat.zero_mul, Nat.mul_zero]

end Split

theorem evenWeights_isEvenSplit (count : Nat) : IsEvenSplit count (evenWeights count) := by
  cases count with
  | zero => exact ⟨rfl, fun some_count => absurd rfl some_count, fun some_count =>
      absurd rfl some_count⟩
  | succ others =>
    have whole := toNat_first_add others
    refine ⟨length_evenWeights _, fun _ => ?_, fun _ => ?_⟩
    · exact ⟨_, _, evenWeights_succ others, Nat.eq_sub_of_add_eq whole, toNat_evenShare others⟩
    · rw [evenWeights_succ, List.map_cons, List.map_replicate, List.sum_cons,
        List.sum_replicate_nat, toNat_evenShare]
      exact whole

/-- The shares of seven destinations. -/
example : evenWeights 7 = [16, 14, 14, 14, 14, 14, 14] := by decide

/-! ## All weights -/

/-- Weights are resolved by their exact sums, for any number of destinations. -/
theorem resolveWeights_resolvesExactly (route : String) (destinations : List Destination) :
    ResolvesExactly route destinations (resolveWeights route destinations) := by
  refine ⟨fun absent => ?_, fun weights given whole => ?_, fun mixed => ?_,
    fun weights some_weight given wrong => ?_⟩
  · exact ⟨_, resolveWeights_of_absent absent, evenWeights_isEvenSplit _,
      checkedEvenWeights?_eq _⟩
  · have some_weight : weights ≠ [] := by
      rintro rfl
      cases whole
    rw [resolveWeights_of_given some_weight given, if_pos whole]
  · exact resolveWeights_of_mixed mixed.1 mixed.2
  · refine ⟨weights.foldl saturatingAdd 0, ?_, ?_⟩
    · rw [resolveWeights_of_given some_weight given, if_neg wrong]
    · rw [toNat_foldl_saturatingAdd, UInt32.toNat_zero, Nat.zero_add]
      rfl

end MeshRoutes
