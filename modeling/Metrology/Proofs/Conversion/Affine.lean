import Mathlib
import Metrology.Proofs.Conversion.Exact

/-!
Conversions with offsets, read exactly. A pipeline of scales and offsets multiplies by
its scale and then adds a number of its own. The scale of a composition is the product of
the scales, wherever the offsets stand, so that two pipelines of one scale always differ
by the same amount. Where all the scales are positive it keeps the order of magnitudes.
-/

namespace Metrology

namespace Step

variable {step : Step (Action Number)}

theorem IsAffine.inverse (affine : step.IsAffine) : step.inverse.IsAffine := by
  cases affine with
  | scale scaling => exact .scale scaling.inverse
  | add exact label => exact .subtract exact _
  | subtract exact label => exact .add exact _

theorem IsAffine.exists_apply (affine : step.IsAffine) :
    ∃ offset : ℚ, ∀ value : ℚ, step.apply value = .ok (value * step.factor + offset) := by
  cases affine with
  | scale scaling =>
      refine ⟨0, fun value => ?_⟩
      rw [(scaling.realizes value).1, add_zero]
      rfl
  | @add constant amount exact label =>
      refine ⟨amount, fun value => ?_⟩
      simp [apply, Acts.act, Action.act, Arithmetic.constant, Arithmetic.add, Number.exact, exact,
        factor]
  | @subtract constant amount exact label =>
      refine ⟨-amount, fun value => ?_⟩
      simp [apply, Acts.act, Action.act, Arithmetic.constant, Arithmetic.sub, Number.exact, exact,
        factor, sub_eq_add_neg]

end Step

namespace Pipeline

variable {pipeline first second : Pipeline (Action Number)}

theorem IsAffine.concat (affineFirst : first.IsAffine) (affineSecond : second.IsAffine) :
    (first.concat second).IsAffine := forall_mem_concat affineFirst affineSecond

theorem IsAffine.inverse (affine : pipeline.IsAffine) : pipeline.inverse.IsAffine :=
  forall_mem_inverse (fun _ => Step.IsAffine.inverse) affine

/-- A pipeline of scales and offsets never fails, and is affine in its magnitude. -/
theorem IsAffine.exists_apply (affine : pipeline.IsAffine) :
    ∃ offset : ℚ, ∀ value : ℚ, pipeline.apply value = .ok (value * pipeline.scale + offset) := by
  rcases pipeline with ⟨steps⟩
  induction steps with
  | nil => exact ⟨0, fun value => by simp [apply_nil, scale]⟩
  | cons step rest induction =>
      rcases (affine step (List.mem_cons_self ..)).exists_apply with ⟨first, appliesStep⟩
      rcases induction fun later member => affine later (List.mem_cons_of_mem step member) with
        ⟨others, appliesRest⟩
      refine ⟨first * scale ⟨rest⟩ + others, fun value => ?_⟩
      rw [apply_cons, appliesStep, Result.ok_bind, appliesRest]
      have composed : (value * step.factor + first) * scale ⟨rest⟩ + others =
          value * (step.factor * scale ⟨rest⟩) + (first * scale ⟨rest⟩ + others) := by ring
      rw [composed]
      simp [scale]

/-- Two pipelines of one scale differ by the same amount at every magnitude. -/
theorem IsAffine.exists_shift (affineFirst : first.IsAffine) (affineSecond : second.IsAffine)
    (same : first.scale = second.scale) :
    ∃ shift : ℚ, ∀ value : ℚ, ∃ base : ℚ,
      first.apply value = .ok base ∧ second.apply value = .ok (base + shift) := by
  rcases affineFirst.exists_apply with ⟨offset, appliesFirst⟩
  rcases affineSecond.exists_apply with ⟨other, appliesSecond⟩
  refine ⟨other - offset, fun value => ⟨_, appliesFirst value, ?_⟩⟩
  rw [appliesSecond, same]
  congr 1
  ring

/-! ### Increasing conversions -/

/-- Pipelines of offsets and of scales by positive numbers. -/
def IsIncreasing (pipeline : Pipeline (Action Number)) : Prop :=
  ∀ step ∈ pipeline.steps, step.IsAffine ∧ 0 < step.factor

instance (pipeline : Pipeline (Action Number)) : Decidable pipeline.IsIncreasing :=
  inferInstanceAs (Decidable (∀ step ∈ pipeline.steps, step.IsAffine ∧ 0 < step.factor))

theorem IsIncreasing.isAffine (increasing : pipeline.IsIncreasing) : pipeline.IsAffine :=
  fun step member => (increasing step member).1

theorem IsIncreasing.scale_pos (increasing : pipeline.IsIncreasing) : 0 < pipeline.scale := by
  refine List.prod_pos fun factor member => ?_
  rcases List.mem_map.mp member with ⟨step, stepMember, rfl⟩
  exact (increasing step stepMember).2

theorem IsIncreasing.exists_realizes (increasing : pipeline.IsIncreasing) :
    ∃ map, pipeline.Realizes map ∧ StrictMono map := by
  rcases increasing.isAffine.exists_realizes with ⟨map, runs⟩
  rcases increasing.isAffine.exists_apply with ⟨offset, applies⟩
  refine ⟨map, runs, fun lower upper below => ?_⟩
  have image (value : ℚ) : map value = value * pipeline.scale + offset :=
    Except.ok.inj ((runs value).1.symm.trans (applies value))
  rw [image, image]
  exact add_lt_add_left (mul_lt_mul_of_pos_right below increasing.scale_pos) offset

end Pipeline
end Metrology
