import Mathlib
import Metrology.Catalogue
import Metrology.Proofs.MeasurementUnit.Composition

/-!
Pipelines are inverted step by step. Nothing is asked of the actions of a step, which may
fail, nor of the magnitudes: the inverse of a step exchanges its two actions and turns its
label round, and the inverse of a pipeline does so from the last step to the first. What a
quotient of units converts with follows from that alone.
-/

namespace Metrology

namespace Step

variable {φ : Type}

/-- A label that is turned round twice is the label again. -/
theorem invertLabel_invertLabel (label : String) : invertLabel (invertLabel label) = label := by
  have turned {opposite : Char} {sign : Char} {rest : List Char}
      (spelled : label.toList = sign :: rest)
      (back : invertLabel (String.ofList (opposite :: rest)) = String.ofList (sign :: rest)) :
      invertLabel (String.ofList (opposite :: rest)) = label := by
    rw [back, ← spelled, String.ofList_toList]
  rw [invertLabel.eq_def label]
  split
  · next rest spelled => exact turned spelled (by simp [invertLabel])
  · next rest spelled => exact turned spelled (by simp [invertLabel])
  · next rest spelled => exact turned spelled (by simp [invertLabel])
  · next rest spelled => exact turned spelled (by simp [invertLabel])
  · next plus minus times per =>
      rw [invertLabel]
      split
      · next rest spelled => exact absurd spelled (plus rest)
      · next rest spelled => exact absurd spelled (minus rest)
      · next rest spelled => exact absurd spelled (times rest)
      · next rest spelled => exact absurd spelled (per rest)
      · rfl

@[simp] theorem inverse_inverse (step : Step φ) : step.inverse.inverse = step := by
  cases step with
  | mk forward backward label => rw [inverse, inverse, invertLabel_invertLabel]

end Step

namespace Pipeline

variable {φ : Type}

theorem inverse_concat (first second : Pipeline φ) :
    (first.concat second).inverse = second.inverse.concat first.inverse := by
  rw [inverse, inverse, inverse, concat, concat, List.reverse_append, List.map_append]

@[simp] theorem inverse_inverse (pipeline : Pipeline φ) : pipeline.inverse.inverse = pipeline := by
  have twice : (Step.inverse ∘ Step.inverse : Step φ → Step φ) = id := by
    funext step
    exact step.inverse_inverse
  simp only [inverse, List.map_reverse, List.reverse_reverse, List.map_map, twice, List.map_id]

end Pipeline

namespace MeasurementUnit

variable {δ ν α : Type} [Dimensional δ] [Literal ν] [Arithmetic α]
  {unit divisor quotient : MeasurementUnit δ ν}

/-- A quotient converts into the base unit as its dividend does, and from there on as its
divisor converts back. -/
theorem toBase_of_divide (divided : unit.divide divisor = .ok quotient) (value : α) :
    quotient.toBase value = unit.toBase value >>= divisor.fromBase := by
  have composed := (divide_eq_ok.mp divided).2.2.1
  rw [toBase, composed, Pipeline.apply_concat]
  apply bind_congr
  intro base
  rw [Pipeline.apply_inverse]
  rfl

end MeasurementUnit

namespace Pipeline

/-- Pipelines run one after another and are taken back in the opposite order, up to the first
fault; an inverse applies what its pipeline takes back; the inverse of a concatenation is made
of the inverses, last one first; and inverting twice gives every step back with its label. A
quotient of units has the steps of its dividend and then those of the inverse of its divisor. -/
theorem inverts_step_by_step {φ α δ ν β : Type} [Acts φ α] [Dimensional δ] [Literal ν]
    [Arithmetic β] :
    (∀ (first second : Pipeline φ) (value : α),
      (first.concat second).apply value = first.apply value >>= second.apply ∧
        (first.concat second).unapply value = second.unapply value >>= first.unapply) ∧
    (∀ (pipeline : Pipeline φ) (value : α),
      pipeline.inverse.apply value = pipeline.unapply value ∧
        pipeline.inverse.unapply value = pipeline.apply value) ∧
    (∀ first second : Pipeline φ,
      (first.concat second).inverse = second.inverse.concat first.inverse) ∧
    (∀ pipeline : Pipeline φ, pipeline.inverse.inverse = pipeline) ∧
    ∀ unit divisor quotient : MeasurementUnit δ ν, unit.divide divisor = .ok quotient →
      quotient.conversion.steps =
          unit.conversion.steps ++ divisor.conversion.inverse.steps ∧
        ∀ value : β, quotient.toBase value = unit.toBase value >>= divisor.fromBase := by
  refine ⟨?runs, ?inverses, inverse_concat, inverse_inverse, ?quotients⟩
  case runs =>
    intro first second value
    exact ⟨apply_concat first second value, unapply_concat first second value⟩
  case inverses =>
    intro pipeline value
    exact ⟨apply_inverse pipeline value, unapply_inverse pipeline value⟩
  case quotients =>
    intro unit divisor quotient divided
    constructor
    · rw [(MeasurementUnit.divide_eq_ok.mp divided).2.2.1]
      rfl
    · exact MeasurementUnit.toBase_of_divide divided

/-- From degrees Celsius the quotient goes up to kelvins and from there down to degrees
Fahrenheit, rounding at every step. -/
theorem inverts_step_by_step_degrees :
    let quotient := Catalogue.known (Catalogue.celsius.divide Catalogue.fahrenheit)
    Catalogue.celsius.divide Catalogue.fahrenheit = .ok quotient ∧
      quotient.conversion.labels = ["+273.15", "*9", "/5", "-459.67"] ∧
      quotient.toBase (100 : Number) =
        (Catalogue.celsius.toBase (100 : Number) >>= Catalogue.fahrenheit.fromBase) ∧
      (quotient.toBase (100 : Number) >>= Number.compactText) = .ok "211.99999999999994" := by
  intro quotient
  have divided : Catalogue.celsius.divide Catalogue.fahrenheit = .ok quotient := by
    decide +kernel
  have laws := @inverts_step_by_step (Action Number) Number (Dimension Number) Number Number
  have composed := laws.2.2.2.2 _ _ _ divided
  exact ⟨divided, by decide +kernel, composed.2 100, by decide +kernel⟩

end Pipeline
end Metrology
