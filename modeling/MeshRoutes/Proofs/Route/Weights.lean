import Mathlib.Algebra.GroupWithZero.Nat
import Mathlib.Data.List.Basic
import Mathlib.Data.Option.Basic
import MeshRoutes.Route.Weights

/-!
# Which weights are accepted

The weights of a route are added in 32 bits and the sum stays at the largest word when it would
overflow. The whole is far below that, so a sum is cut only where it is wrong anyhow, and the
weights that are accepted are those whose exact sum is the whole.

* `toNat_foldl_saturatingAdd`: a saturating sum is the exact one, cut once.
* `resolveWeights_of_absent`, `resolveWeights_of_given`, `resolveWeights_of_mixed`: the result for
  weights that are all absent, all given, or neither.
* `exists_resolveWeights_eq_ok_iff`: when there is one.
* `Reason.BlamesWeights`: what is said of weights for which there is none.
-/

namespace MeshRoutes

/-- Whether the weights of destinations make up the whole: none is given, or all are, with this as
their exact sum. -/
def WeightsAddUp (destinations : List Destination) : Prop :=
  (∀ destination ∈ destinations, destination.weight = none) ∨
    ∃ weights : List UInt32, destinations.map (·.weight) = weights.map some ∧
      (weights.map UInt32.toNat).sum = 100

/-- Whether some of the destinations have a weight and some have none. -/
def HaveMixedWeights (destinations : List Destination) : Prop :=
  (∃ destination ∈ destinations, destination.weight ≠ none) ∧
    ∃ destination ∈ destinations, destination.weight = none

/-- Whether a reason says of the destinations of the named route what is wrong with their weights:
some are missing, or else what they add up to, cut at 32 bits, is not the whole. -/
structure Reason.BlamesWeights (route : String) (destinations : List Destination)
    (reason : Reason) : Prop where
  presence_iff : reason = .weightPresenceMismatch route ↔ HaveMixedWeights destinations
  sum : ¬HaveMixedWeights destinations → ∃ (weights : List UInt32) (sum : UInt32),
    destinations.map (·.weight) = weights.map some ∧ reason = .weightSumInvalid route sum ∧
      sum.toNat = min (weights.map UInt32.toNat).sum (2 ^ 32 - 1) ∧ sum.toNat ≠ 100

/-! ## Sums -/

theorem toNat_saturatingAdd (x y : UInt32) :
    (saturatingAdd x y).toNat = min (x.toNat + y.toNat) 4294967295 := by
  have x_lt := x.toNat_lt
  have y_lt := y.toNat_lt
  have wrapped : (x + y).toNat = (x.toNat + y.toNat) % 4294967296 := UInt32.toNat_add x y
  unfold saturatingAdd
  split
  · next overflow =>
    have overflow := UInt32.lt_iff_toNat_lt.1 overflow
    have beyond : 4294967295 ≤ x.toNat + y.toNat := by omega
    exact (Nat.min_eq_right beyond).symm
  · next fits =>
    have fits : ¬(x + y).toNat < x.toNat := fun lt => fits (UInt32.lt_iff_toNat_lt.2 lt)
    omega

theorem toNat_foldl_saturatingAdd (weights : List UInt32) (start : UInt32) :
    (weights.foldl saturatingAdd start).toNat =
      min (start.toNat + (weights.map UInt32.toNat).sum) 4294967295 := by
  induction weights generalizing start with
  | nil =>
    have start_lt := start.toNat_lt
    simp only [List.foldl_nil, List.map_nil, List.sum_nil]
    omega
  | cons weight weights ih =>
    rw [List.foldl_cons, ih, toNat_saturatingAdd, List.map_cons, List.sum_cons]
    omega

/-- A saturating sum is the whole exactly when the exact sum is. -/
theorem foldl_saturatingAdd_eq_iff (weights : List UInt32) :
    weights.foldl saturatingAdd 0 = weightTotal ↔ (weights.map UInt32.toNat).sum = 100 := by
  have exact_sum := toNat_foldl_saturatingAdd weights 0
  have whole : weightTotal.toNat = 100 := rfl
  have zero : (0 : UInt32).toNat = 0 := rfl
  rw [← UInt32.toNat_inj]
  omega

/-! ## Results -/

section Resolve

variable {route : String} {destinations : List Destination}

theorem resolveWeights_of_absent
    (absent : ∀ destination ∈ destinations, destination.weight = none) :
    resolveWeights route destinations = .ok (evenWeights destinations.length) := by
  have given : destinations.filterMap (·.weight) = [] := List.filterMap_eq_nil_iff.2 absent
  unfold resolveWeights
  rw [given]
  rfl

theorem resolveWeights_of_given {weights : List UInt32} (some_weight : weights ≠ [])
    (given : destinations.map (·.weight) = weights.map some) :
    resolveWeights route destinations =
      if (weights.map UInt32.toNat).sum = 100 then .ok weights
      else .error (.weightSumInvalid route (weights.foldl saturatingAdd 0)) := by
  have all_given : destinations.filterMap (·.weight) = weights := by
    have through : destinations.filterMap (·.weight) =
        (destinations.map (·.weight)).filterMap id := by
      rw [List.filterMap_map]
      rfl
    rw [through, given, List.filterMap_map]
    exact List.filterMap_some
  have length : destinations.length = weights.length := by
    simpa only [List.length_map] using congrArg List.length given
  unfold resolveWeights
  simp only [all_given, List.isEmpty_iff, some_weight, if_false, length, ne_eq, not_true_eq_false,
    foldl_saturatingAdd_eq_iff]

theorem resolveWeights_of_mixed
    (given : ∃ destination ∈ destinations, destination.weight ≠ none)
    (absent : ∃ destination ∈ destinations, destination.weight = none) :
    resolveWeights route destinations = .error (.weightPresenceMismatch route) := by
  have some_given : destinations.filterMap (·.weight) ≠ [] := by
    obtain ⟨destination, mem, present⟩ := given
    exact fun none => present (List.filterMap_eq_nil_iff.1 none destination mem)
  have some_absent : (destinations.filterMap (·.weight)).length ≠ destinations.length := by
    obtain ⟨destination, mem, missing⟩ := absent
    intro same
    have present := (List.filterMap_length_eq_length).1 same destination mem
    rw [missing] at present
    cases present
  unfold resolveWeights
  simp only [List.isEmpty_iff, some_given, if_false, ne_eq, some_absent, not_false_eq_true, if_true]

/-- Weights are all absent, all given, or neither. -/
theorem weights_cases (destinations : List Destination) :
    (∀ destination ∈ destinations, destination.weight = none) ∨
      (∃ weights : List UInt32, weights ≠ [] ∧ destinations.map (·.weight) = weights.map some) ∨
      (∃ destination ∈ destinations, destination.weight ≠ none) ∧
        ∃ destination ∈ destinations, destination.weight = none := by
  by_cases none_given : ∀ destination ∈ destinations, destination.weight = none
  · exact .inl none_given
  by_cases some_absent : ∃ destination ∈ destinations, destination.weight = none
  · push Not at none_given
    exact .inr (.inr ⟨none_given, some_absent⟩)
  · push Not at none_given some_absent
    refine .inr (.inl ⟨destinations.filterMap (·.weight), ?_, ?_⟩)
    · obtain ⟨destination, mem, present⟩ := none_given
      exact fun none => present (List.filterMap_eq_nil_iff.1 none destination mem)
    · clear none_given
      induction destinations with
      | nil => rfl
      | cons destination destinations ih =>
        obtain ⟨present, rest⟩ := List.forall_mem_cons.1 some_absent
        obtain ⟨weight, eq⟩ := Option.ne_none_iff_exists'.1 present
        rw [List.map_cons, List.filterMap_cons_some eq, List.map_cons, eq, ih rest]

theorem weightsAddUp_iff_of_given {weights : List UInt32} (some_weight : weights ≠ [])
    (given : destinations.map (·.weight) = weights.map some) :
    WeightsAddUp destinations ↔ (weights.map UInt32.toNat).sum = 100 := by
  refine ⟨fun addUp => ?_, fun sum => .inr ⟨weights, given, sum⟩⟩
  rcases addUp with absent | ⟨weights', given', sum⟩
  · obtain ⟨weight, rest, rfl⟩ := List.exists_cons_of_ne_nil some_weight
    have weight_mem : some weight ∈ destinations.map (·.weight) := by
      rw [given]
      exact List.mem_cons_self
    obtain ⟨destination, mem, present⟩ := List.mem_map.1 weight_mem
    cases (absent destination mem).symm.trans present
  · have same : weights' = weights :=
      List.map_injective_iff.2 (Option.some_injective _) (given'.symm.trans given)
    rwa [same] at sum

theorem weight_ne_none_of_given {weights : List UInt32}
    (given : destinations.map (·.weight) = weights.map some) {destination : Destination}
    (mem : destination ∈ destinations) : destination.weight ≠ none := by
  have weight_mem : destination.weight ∈ weights.map some :=
    given ▸ List.mem_map_of_mem (f := (·.weight)) mem
  obtain ⟨weight, _, present⟩ := List.mem_map.1 weight_mem
  exact fun missing => nomatch present.trans missing

theorem not_weightsAddUp_of_mixed (given : ∃ destination ∈ destinations, destination.weight ≠ none)
    (absent : ∃ destination ∈ destinations, destination.weight = none) :
    ¬WeightsAddUp destinations := by
  intro addUp
  obtain ⟨destination, mem, missing⟩ := absent
  rcases addUp with all_absent | ⟨weights, all_given, _⟩
  · obtain ⟨other, other_mem, present⟩ := given
    exact present (all_absent other other_mem)
  · exact weight_ne_none_of_given all_given mem missing

theorem length_evenWeights (count : Nat) : (evenWeights count).length = count := by
  cases count with
  | zero => rfl
  | succ others => simp [evenWeights]

/-- Each destination has a weight. -/
theorem length_of_resolveWeights_eq_ok {weights : List UInt32}
    (resolved : resolveWeights route destinations = .ok weights) :
    weights.length = destinations.length := by
  rcases weights_cases destinations with absent | ⟨given, some_weight, all_given⟩ | ⟨given, absent⟩
  · cases (resolveWeights_of_absent absent).symm.trans resolved
    exact length_evenWeights _
  · rw [resolveWeights_of_given some_weight all_given] at resolved
    split at resolved
    · cases resolved
      simpa only [List.length_map] using (congrArg List.length all_given).symm
    · cases resolved
  · cases (resolveWeights_of_mixed given absent).symm.trans resolved

/-- There are weights for destinations exactly when those that are given make up the whole. -/
theorem exists_resolveWeights_eq_ok_iff :
    (∃ weights, resolveWeights route destinations = .ok weights) ↔ WeightsAddUp destinations := by
  rcases weights_cases destinations with absent | ⟨weights, some_weight, given⟩ | ⟨given, absent⟩
  · exact iff_of_true ⟨_, resolveWeights_of_absent absent⟩ (.inl absent)
  · rw [resolveWeights_of_given some_weight given, weightsAddUp_iff_of_given some_weight given]
    split
    · next sum => exact iff_of_true ⟨weights, rfl⟩ sum
    · next sum => exact iff_of_false (fun result => by obtain ⟨_, ok⟩ := result; cases ok) sum
  · rw [resolveWeights_of_mixed given absent]
    refine iff_of_false (fun result => ?_) (not_weightsAddUp_of_mixed given absent)
    obtain ⟨_, ok⟩ := result
    cases ok

/-- A reason why there are no weights says what is wrong with those that are given. -/
theorem blamesWeights_of_resolveWeights_eq_error {reason : Reason}
    (failed : resolveWeights route destinations = .error reason) :
    reason.BlamesWeights route destinations := by
  rcases weights_cases destinations with absent | ⟨weights, some_weight, given⟩ | mixed
  · cases (resolveWeights_of_absent absent).symm.trans failed
  · have not_mixed : ¬HaveMixedWeights destinations := by
      rintro ⟨_, destination, mem, missing⟩
      exact weight_ne_none_of_given given mem missing
    rw [resolveWeights_of_given some_weight given] at failed
    split at failed
    · cases failed
    · next wrong =>
      cases failed
      have sum_eq : (weights.foldl saturatingAdd 0).toNat =
          min (weights.map UInt32.toNat).sum (2 ^ 32 - 1) := by
        rw [toNat_foldl_saturatingAdd]
        exact congrArg (min · _) (Nat.zero_add _)
      refine ⟨iff_of_false (fun same => nomatch same) not_mixed,
        fun _ => ⟨weights, _, given, rfl, sum_eq, fun whole => wrong ?_⟩⟩
      omega
  · cases (resolveWeights_of_mixed mixed.1 mixed.2).symm.trans failed
    exact ⟨iff_of_true rfl mixed, fun not_mixed => (not_mixed mixed).elim⟩

end Resolve

end MeshRoutes
