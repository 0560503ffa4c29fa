import Mathlib
import Metrology.Conversion.Pipeline

/-!
Runs of composed pipelines, for any actions and any magnitudes. A concatenation runs
its first part first and takes its last part back first; the inverse of a pipeline
applies what the pipeline takes back. Faults pass through as the results do.
-/

namespace Metrology
namespace Pipeline

variable {φ α : Type} [Acts φ α]

theorem apply_nil (value : α) : apply (⟨[]⟩ : Pipeline φ) value = .ok value := rfl

theorem unapply_nil (value : α) : unapply (⟨[]⟩ : Pipeline φ) value = .ok value := rfl

theorem apply_cons (step : Step φ) (steps : List (Step φ)) (value : α) :
    apply ⟨step :: steps⟩ value = step.apply value >>= apply ⟨steps⟩ := by
  rw [apply, List.foldlM_cons]
  rfl

theorem unapply_cons (step : Step φ) (steps : List (Step φ)) (value : α) :
    unapply ⟨step :: steps⟩ value = unapply ⟨steps⟩ value >>= step.unapply := by
  rw [unapply, List.reverse_cons, List.foldlM_append]
  simp only [List.foldlM_cons, List.foldlM_nil, bind_pure]
  rfl

theorem apply_concat (first second : Pipeline φ) (value : α) :
    (first.concat second).apply value = first.apply value >>= second.apply := by
  rw [apply, concat, List.foldlM_append]
  rfl

theorem unapply_concat (first second : Pipeline φ) (value : α) :
    (first.concat second).unapply value = second.unapply value >>= first.unapply := by
  rw [unapply, concat, List.reverse_append, List.foldlM_append]
  rfl

theorem apply_inverse (pipeline : Pipeline φ) (value : α) :
    pipeline.inverse.apply value = pipeline.unapply value := by
  rw [apply, inverse, List.foldlM_map]
  rfl

theorem unapply_inverse (pipeline : Pipeline φ) (value : α) :
    pipeline.inverse.unapply value = pipeline.apply value := by
  rw [unapply, inverse, List.map_reverse, List.reverse_reverse, List.foldlM_map]
  rfl

end Pipeline
end Metrology
