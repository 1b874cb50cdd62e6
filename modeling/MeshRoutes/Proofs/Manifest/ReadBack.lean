import MeshRoutes.Manifest.Render
import MeshRoutes.Proofs.Mesh.Values

/-!
# The rendered resources read back

Whatever texts the resources hold, the rendered stream has one document for each of them, and these
decode to the virtual services and then the services, in order.

* `Manifest.parse?_render`: the documents of the rendered stream.
* `Manifest.render_reads_back`: they decode to the compiled resources.
-/

namespace MeshRoutes.Manifest

open Yaml (Value)

theorem isRoot_of_mem_documents {compiled : Compiled} {doc : Json}
    (mem : doc ∈ documents compiled) : Yaml.IsRoot 128 doc := by
  rcases List.mem_append.1 mem with mem | mem
  · obtain ⟨resource, _, rfl⟩ := List.mem_map.1 mem
    exact resource.isRoot
  · obtain ⟨resource, _, rfl⟩ := List.mem_map.1 mem
    exact resource.isRoot

theorem parse?_render (compiled : Compiled) :
    Yaml.parse? (render compiled) = some ((documents compiled).map Value.ofJson) :=
  Yaml.parse?_renderAll fun _ => isRoot_of_mem_documents

/-- The values of written resources decode to the resources, in order. -/
theorem mapM_values {α : Type} {write : α → Json} {read : Value → Option α}
    (reads : ∀ a, read (Value.ofJson (write a)) = some a) (as : List α) :
    ((as.map write).map Value.ofJson).mapM read = some as := by
  rw [List.map_map]
  exact mapM_write_eq_some reads as

/-- Nothing is written exactly if there is no resource. -/
theorem render_eq_empty_iff {compiled : Compiled} :
    render compiled = "" ↔ compiled.resourceCount = 0 := by
  have count : (documents compiled).length = compiled.resourceCount := by
    simp [documents, Compiled.resourceCount]
  rw [← count, List.length_eq_zero_iff]
  constructor
  · intro rendered
    have read := parse?_render compiled
    have read_empty : Yaml.parse? "" = some [] :=
      Yaml.parse?_renderAll (List.forall_mem_nil (Yaml.IsRoot 128))
    rw [rendered, read_empty, Option.some_inj] at read
    exact List.map_eq_nil_iff.1 read.symm
  · intro none
    rw [render, none]
    rfl

/-- Reading a rendered stream gives a value for each resource. The first decode to the virtual
services, the others to the services. Without a resource the stream is empty. -/
theorem render_reads_back (compiled : Compiled) :
    ∃ virtualServices services : List Value,
      Yaml.parse? (render compiled) = some (virtualServices ++ services) ∧
      (virtualServices ++ services).length = compiled.resourceCount ∧
      virtualServices.mapM VirtualService.ofDocument? = some compiled.virtualServices ∧
      services.mapM Service.ofDocument? = some compiled.services ∧
      (render compiled = "" ↔ compiled.resourceCount = 0) := by
  refine ⟨(compiled.virtualServices.map VirtualService.toJson).map Value.ofJson,
    (compiled.services.map Service.toJson).map Value.ofJson, ?_, ?_,
    mapM_values VirtualService.ofDocument?_value _, mapM_values Service.ofDocument?_value _,
    render_eq_empty_iff⟩
  · rw [parse?_render, documents, List.map_append]
  · simp [Compiled.resourceCount]

end MeshRoutes.Manifest
