import MeshRoutes.Proofs.Text.Trim
import MeshRoutes.Settings

/-!
# Accepted settings

Settings are accepted if there is a gateway, none is blank, and some time passes between two passes.
The gateways are kept in order, without the blanks at their ends.

* `RawSettings.check_eq_ok_iff`: the settings that are accepted.
-/

namespace MeshRoutes

/-- Settings are accepted if they name gateways, none of which is blank, and a time between
passes. -/
theorem RawSettings.check_eq_ok_iff {raw : RawSettings} {settings : Settings} :
    raw.check = .ok settings ↔
      raw.gateways ≠ [] ∧ (∀ gateway ∈ raw.gateways, Text.trim gateway ≠ "") ∧
        raw.resyncSeconds ≠ 0 ∧
        settings = ⟨raw.gateways.map Text.trim, raw.resyncSeconds⟩ := by
  unfold check
  simp only [List.isEmpty_iff, List.map_eq_nil_iff]
  split
  · next none => simp [none]
  · next some_gateway =>
    split
    · next position found =>
      obtain ⟨bound, blank, _⟩ := List.findIdx?_eq_some_iff_getElem.1 found
      refine iff_of_false (fun accepted => nomatch accepted) fun valid => ?_
      have mem := List.getElem_mem bound
      obtain ⟨gateway, gateway_mem, trimmed⟩ := List.mem_map.1 mem
      refine valid.2.1 gateway gateway_mem ?_
      rw [trimmed]
      exact String.isEmpty_iff.1 blank
    · next none =>
      have not_blank : ∀ gateway ∈ raw.gateways, Text.trim gateway ≠ "" := by
        intro gateway mem empty
        have kept := List.findIdx?_eq_none_iff.1 none _ (List.mem_map_of_mem mem)
        rw [empty] at kept
        cases kept
      split
      · next zero => simp [zero]
      · next positive =>
        rw [Except.ok.injEq, eq_comm]
        simp only [ne_eq, some_gateway, not_false_eq_true, positive, true_and]
        exact (and_iff_right not_blank).symm

end MeshRoutes
