import MeshRoutes.Proofs.Compile.LongestPrefix

/-!
# The order in which routes are listed

Routes are listed in any order, and the first of them decides what a reason names, and in which
namespace and behind which gateways a domain name is served. Since routes are put in order by
namespace and name before, and no two share both, none of this depends on the listing.

* `HaveDistinctKeys`: whether routes are told apart by namespace and name.
* `mergeSort_canonicalLe_eq_of_perm`: such routes are put into one order.
-/

namespace MeshRoutes

/-- Whether routes are told apart by namespace and name, as objects of one kind are. -/
def HaveDistinctKeys (routes : List Route) : Prop :=
  ∀ a ∈ routes, ∀ b ∈ routes, a.metadata.ns.getD "" = b.metadata.ns.getD "" →
    a.metadata.name = b.metadata.name → a = b

variable {routes others : List Route}

/-- Routes with distinct keys are put into one order, in whatever order they are listed. -/
theorem mergeSort_canonicalLe_eq_of_perm (distinct : HaveDistinctKeys routes)
    (same : routes.Perm others) :
    routes.mergeSort Route.canonicalLe = others.mergeSort Route.canonicalLe := by
  have sorted_perm : (routes.mergeSort Route.canonicalLe).Perm
      (others.mergeSort Route.canonicalLe) :=
    (List.mergeSort_perm _ _).trans (same.trans (List.mergeSort_perm _ _).symm)
  refine List.Perm.eq_of_pairwise (fun a b a_mem b_mem ab ba => ?_)
    (Route.pairwise_mergeSort_canonicalLe routes) (Route.pairwise_mergeSort_canonicalLe others)
    sorted_perm
  have a_mem : a ∈ routes := List.mem_mergeSort.1 a_mem
  have b_mem : b ∈ routes := same.mem_iff.2 (List.mem_mergeSort.1 b_mem)
  obtain ⟨namespace_eq, name_eq⟩ := Route.canonicalLe_antisymm ab ba
  rw [a.namespaceName_eq, b.namespaceName_eq] at namespace_eq
  exact distinct a a_mem b b_mem namespace_eq name_eq

/-- Routes with distinct keys compile to the same, in whatever order they are listed: to the same
resources and the same skipped domain names and destinations for the same reasons, in one order. -/
theorem compile_eq_of_perm (gateways : List String) (distinct : HaveDistinctKeys routes)
    (same : routes.Perm others) : compile gateways routes = compile gateways others := by
  unfold compile
  rw [mergeSort_canonicalLe_eq_of_perm distinct same]

/-- Three routes of one domain name compile to the same when they are listed backwards. -/
theorem compile_splitRoutes_reverse :
    HaveDistinctKeys splitRoutes ∧ splitRoutes.Perm splitRoutes.reverse ∧
      compile ["gateway"] splitRoutes = compile ["gateway"] splitRoutes.reverse := by
  have distinct : HaveDistinctKeys splitRoutes := by
    unfold HaveDistinctKeys
    decide
  have same : splitRoutes.Perm splitRoutes.reverse := (List.reverse_perm splitRoutes).symm
  exact ⟨distinct, same, compile_eq_of_perm ["gateway"] distinct same⟩

end MeshRoutes
