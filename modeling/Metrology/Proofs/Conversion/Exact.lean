import Mathlib
import Metrology.Proofs.Conversion.Runs

/-!
Conversions read exactly, on rational magnitudes. Steps with a finite constant, and
with a factor other than zero, never fail and take themselves back, so a pipeline of
them is a permutation of the rationals: run forward it is the permutation, taken back
it is its inverse. A pipeline that only scales is multiplication by one number, the
scale of the pipeline.
-/

namespace Metrology

/-- The exact value of a number; zero for one that has none. -/
def Number.exactValue (number : Number) : ℚ := number.exact?.getD 0

theorem Number.exact?_of_exactValue_ne_zero {number : Number} (nonzero : number.exactValue ≠ 0) :
    ∃ amount, number.exact? = some amount ∧ amount ≠ 0 := by
  cases exact : number.exact? with
  | none => exact absurd (by simp [exactValue, exact]) nonzero
  | some amount => exact ⟨amount, rfl, by simpa [exactValue, exact] using nonzero⟩

/-! ## Steps -/

namespace Step

/-- Steps that multiply or divide by a finite constant other than zero. -/
inductive IsScaling : Step (Action Number) → Prop
  | multiply {constant : Number} {amount : ℚ} (exact : constant.exact? = some amount)
      (nonzero : amount ≠ 0) (label : String) :
      IsScaling ⟨.times constant, .dividedBy constant, label⟩
  | divide {constant : Number} {amount : ℚ} (exact : constant.exact? = some amount)
      (nonzero : amount ≠ 0) (label : String) :
      IsScaling ⟨.dividedBy constant, .times constant, label⟩

/-- Steps that scale, or that add or subtract a finite constant. -/
inductive IsAffine : Step (Action Number) → Prop
  | scale {step : Step (Action Number)} (scaling : step.IsScaling) : IsAffine step
  | add {constant : Number} {amount : ℚ} (exact : constant.exact? = some amount)
      (label : String) : IsAffine ⟨.plus constant, .minus constant, label⟩
  | subtract {constant : Number} {amount : ℚ} (exact : constant.exact? = some amount)
      (label : String) : IsAffine ⟨.minus constant, .plus constant, label⟩

/-- A step runs as a permutation when it never fails, applies the permutation, and
takes it back. -/
def Realizes (step : Step (Action Number)) (map : Equiv.Perm ℚ) : Prop :=
  ∀ value : ℚ, step.apply value = .ok (map value) ∧ step.unapply value = .ok (map.symm value)

/-- What a step multiplies a magnitude by, when it scales. -/
def factor (step : Step (Action Number)) : ℚ :=
  match step.forward with
  | .times constant => constant.exactValue
  | .dividedBy constant => constant.exactValue⁻¹
  | _ => 1

/-! ### Deciding -/

theorem isScaling_multiply_iff {constant divisor : Number} {label : String} :
    IsScaling ⟨.times constant, .dividedBy divisor, label⟩ ↔
      constant = divisor ∧ constant.exactValue ≠ 0 := by
  constructor
  · rintro (⟨exact, nonzero, _⟩ | _)
    exact ⟨rfl, by rwa [Number.exactValue, exact]⟩
  · rintro ⟨rfl, nonzero⟩
    rcases Number.exact?_of_exactValue_ne_zero nonzero with ⟨amount, exact, nonzero⟩
    exact .multiply exact nonzero label

theorem isScaling_divide_iff {constant factor : Number} {label : String} :
    IsScaling ⟨.dividedBy constant, .times factor, label⟩ ↔
      constant = factor ∧ constant.exactValue ≠ 0 := by
  constructor
  · rintro (_ | ⟨exact, nonzero, _⟩)
    exact ⟨rfl, by rwa [Number.exactValue, exact]⟩
  · rintro ⟨rfl, nonzero⟩
    rcases Number.exact?_of_exactValue_ne_zero nonzero with ⟨amount, exact, nonzero⟩
    exact .divide exact nonzero label

instance : DecidablePred IsScaling
  | ⟨.times _, .dividedBy _, _⟩ => decidable_of_iff _ isScaling_multiply_iff.symm
  | ⟨.dividedBy _, .times _, _⟩ => decidable_of_iff _ isScaling_divide_iff.symm
  | ⟨.plus _, _, _⟩ | ⟨.minus _, _, _⟩ | ⟨.negation, _, _⟩ => .isFalse nofun
  | ⟨.times _, .plus _, _⟩ | ⟨.times _, .minus _, _⟩ | ⟨.times _, .times _, _⟩ => .isFalse nofun
  | ⟨.times _, .negation, _⟩ | ⟨.dividedBy _, .negation, _⟩ => .isFalse nofun
  | ⟨.dividedBy _, .plus _, _⟩ | ⟨.dividedBy _, .minus _, _⟩ => .isFalse nofun
  | ⟨.dividedBy _, .dividedBy _, _⟩ => .isFalse nofun

theorem isAffine_add_iff {constant removed : Number} {label : String} :
    IsAffine ⟨.plus constant, .minus removed, label⟩ ↔
      constant = removed ∧ constant.exact?.isSome := by
  constructor
  · rintro (scaling | ⟨exact, _⟩ | _)
    · cases scaling
    · exact ⟨rfl, by rw [exact]; rfl⟩
  · rintro ⟨rfl, finite⟩
    rcases Option.isSome_iff_exists.mp finite with ⟨amount, exact⟩
    exact .add exact label

theorem isAffine_subtract_iff {constant added : Number} {label : String} :
    IsAffine ⟨.minus constant, .plus added, label⟩ ↔
      constant = added ∧ constant.exact?.isSome := by
  constructor
  · rintro (scaling | _ | ⟨exact, _⟩)
    · cases scaling
    · exact ⟨rfl, by rw [exact]; rfl⟩
  · rintro ⟨rfl, finite⟩
    rcases Option.isSome_iff_exists.mp finite with ⟨amount, exact⟩
    exact .subtract exact label

instance : DecidablePred IsAffine
  | ⟨.plus _, .minus _, _⟩ => decidable_of_iff _ isAffine_add_iff.symm
  | ⟨.minus _, .plus _, _⟩ => decidable_of_iff _ isAffine_subtract_iff.symm
  | ⟨.times _, _, _⟩ | ⟨.dividedBy _, _, _⟩ | ⟨.negation, _, _⟩
  | ⟨.plus _, .plus _, _⟩ | ⟨.plus _, .times _, _⟩ | ⟨.plus _, .dividedBy _, _⟩
  | ⟨.plus _, .negation, _⟩ | ⟨.minus _, .minus _, _⟩ | ⟨.minus _, .times _, _⟩
  | ⟨.minus _, .dividedBy _, _⟩ | ⟨.minus _, .negation, _⟩ =>
      decidable_of_iff (IsScaling _) ⟨.scale, fun | .scale scaling => scaling⟩

variable {step : Step (Action Number)}

theorem IsScaling.factor_ne_zero (scaling : step.IsScaling) : step.factor ≠ 0 := by
  cases scaling with
  | multiply exact nonzero label => simpa [factor, Number.exactValue, exact] using nonzero
  | divide exact nonzero label => simpa [factor, Number.exactValue, exact] using nonzero

theorem IsAffine.factor_ne_zero (affine : step.IsAffine) : step.factor ≠ 0 := by
  cases affine with
  | scale scaling => exact scaling.factor_ne_zero
  | add exact label => exact one_ne_zero
  | subtract exact label => exact one_ne_zero

theorem IsScaling.inverse (scaling : step.IsScaling) : step.inverse.IsScaling := by
  cases scaling with
  | multiply exact nonzero label => exact .divide exact nonzero _
  | divide exact nonzero label => exact .multiply exact nonzero _

theorem IsScaling.factor_inverse (scaling : step.IsScaling) :
    step.inverse.factor = step.factor⁻¹ := by
  cases scaling with
  | multiply exact nonzero label => rfl
  | divide exact nonzero label => exact (inv_inv _).symm

/-- An offset multiplies by one, forward and backward. -/
theorem IsAffine.factor_inverse (affine : step.IsAffine) :
    step.inverse.factor = step.factor⁻¹ := by
  cases affine with
  | scale scaling => exact scaling.factor_inverse
  | add exact label => exact inv_one.symm
  | subtract exact label => exact inv_one.symm

theorem IsScaling.realizes (scaling : step.IsScaling) :
    step.Realizes (Equiv.mulRight₀ step.factor scaling.factor_ne_zero) := by
  intro value
  cases scaling with
  | multiply exact nonzero label =>
      simp [apply, unapply, Acts.act, Action.act, Arithmetic.constant, Arithmetic.mul,
        Arithmetic.div, Number.exact, Number.exactValue, factor, exact, nonzero,
        div_eq_mul_inv]
  | divide exact nonzero label =>
      simp [apply, unapply, Acts.act, Action.act, Arithmetic.constant, Arithmetic.mul,
        Arithmetic.div, Number.exact, Number.exactValue, factor, exact, nonzero,
        div_eq_mul_inv]

theorem IsAffine.exists_realizes (affine : step.IsAffine) : ∃ map, step.Realizes map := by
  cases affine with
  | scale scaling => exact ⟨_, scaling.realizes⟩
  | @add constant amount exact label =>
      refine ⟨Equiv.addRight amount, fun value => ?_⟩
      simp [apply, unapply, Acts.act, Action.act, Arithmetic.constant, Arithmetic.add,
        Arithmetic.sub, Number.exact, exact, sub_eq_add_neg]
  | @subtract constant amount exact label =>
      refine ⟨Equiv.subRight amount, fun value => ?_⟩
      simp [apply, unapply, Acts.act, Action.act, Arithmetic.constant, Arithmetic.add,
        Arithmetic.sub, Number.exact, exact]

end Step

/-! ## Pipelines -/

namespace Pipeline

/-- A pipeline runs as a permutation when it never fails, applies the permutation, and
takes it back. -/
def Realizes (pipeline : Pipeline (Action Number)) (map : Equiv.Perm ℚ) : Prop :=
  ∀ value : ℚ,
    pipeline.apply value = .ok (map value) ∧ pipeline.unapply value = .ok (map.symm value)

/-- Pipelines of scales and offsets. -/
def IsAffine (pipeline : Pipeline (Action Number)) : Prop :=
  ∀ step ∈ pipeline.steps, step.IsAffine

/-- Pipelines of scales alone. -/
def IsLinear (pipeline : Pipeline (Action Number)) : Prop :=
  ∀ step ∈ pipeline.steps, step.IsScaling

instance (pipeline : Pipeline (Action Number)) : Decidable pipeline.IsAffine :=
  inferInstanceAs (Decidable (∀ step ∈ pipeline.steps, step.IsAffine))

instance (pipeline : Pipeline (Action Number)) : Decidable pipeline.IsLinear :=
  inferInstanceAs (Decidable (∀ step ∈ pipeline.steps, step.IsScaling))

/-- What a pipeline of scales multiplies a magnitude by. -/
def scale (pipeline : Pipeline (Action Number)) : ℚ := (pipeline.steps.map Step.factor).prod

theorem realizes_nil : Realizes ⟨[]⟩ (Equiv.refl ℚ) := fun _ => ⟨rfl, rfl⟩

/-- One more step in front is carried out first and taken back last. -/
theorem Realizes.cons {step : Step (Action Number)} {steps : List (Step (Action Number))}
    {first rest : Equiv.Perm ℚ} (realizesStep : step.Realizes first)
    (realizesRest : Realizes ⟨steps⟩ rest) : Realizes ⟨step :: steps⟩ (first.trans rest) := by
  intro value
  constructor
  · rw [apply_cons, (realizesStep value).1, Result.ok_bind, (realizesRest (first value)).1]
    rfl
  · rw [unapply_cons, (realizesRest value).2, Result.ok_bind,
      (realizesStep (rest.symm value)).2]
    rfl

/-- Which permutation a pipeline runs as is settled by its runs forward. -/
theorem Realizes.eq_of_apply_eq {left right : Pipeline (Action Number)}
    {leftMap rightMap : Equiv.Perm ℚ} (realizesLeft : left.Realizes leftMap)
    (realizesRight : right.Realizes rightMap)
    (same : ∀ value : ℚ, left.apply value = right.apply value) : leftMap = rightMap := by
  ext value
  have equal := same value
  rw [(realizesLeft value).1, (realizesRight value).1] at equal
  exact Except.ok.inj equal

theorem IsAffine.exists_realizes {pipeline : Pipeline (Action Number)}
    (affine : pipeline.IsAffine) : ∃ map, pipeline.Realizes map := by
  rcases pipeline with ⟨steps⟩
  induction steps with
  | nil => exact ⟨_, realizes_nil⟩
  | cons step rest induction =>
      rcases (affine step (List.mem_cons_self ..)).exists_realizes with ⟨first, realizesStep⟩
      rcases induction fun later member => affine later (List.mem_cons_of_mem step member) with
        ⟨map, realizesRest⟩
      exact ⟨_, Realizes.cons realizesStep realizesRest⟩

/-! ## Scales -/

variable {pipeline first second : Pipeline (Action Number)}

theorem IsLinear.isAffine (linear : pipeline.IsLinear) : pipeline.IsAffine :=
  fun step member => .scale (linear step member)

theorem IsAffine.scale_ne_zero (affine : pipeline.IsAffine) : pipeline.scale ≠ 0 := by
  rw [scale, Ne, List.prod_eq_zero_iff, List.mem_map]
  rintro ⟨step, member, zero⟩
  exact (affine step member).factor_ne_zero zero

theorem IsLinear.scale_ne_zero (linear : pipeline.IsLinear) : pipeline.scale ≠ 0 :=
  linear.isAffine.scale_ne_zero

/-- A pipeline of scales multiplies by its scale and divides by it on the way back. -/
theorem IsLinear.realizes (linear : pipeline.IsLinear) :
    pipeline.Realizes (Equiv.mulRight₀ pipeline.scale linear.scale_ne_zero) := by
  rcases pipeline with ⟨steps⟩
  induction steps with
  | nil =>
      intro value
      simp [apply_nil, unapply_nil, scale]
  | cons step rest induction =>
      have remaining : IsLinear ⟨rest⟩ := fun later member =>
        linear later (List.mem_cons_of_mem step member)
      have run := Realizes.cons (linear step (List.mem_cons_self ..)).realizes
        (induction remaining)
      intro value
      rw [(run value).1, (run value).2]
      simp [scale, mul_assoc]

theorem IsLinear.apply_eq (linear : pipeline.IsLinear) (value : ℚ) :
    pipeline.apply value = .ok (value * pipeline.scale) := (linear.realizes value).1

theorem isLinear_identity : (identity : Pipeline (Action Number)).IsLinear := by
  intro step member
  cases member

@[simp] theorem scale_identity : (identity : Pipeline (Action Number)).scale = 1 := rfl

theorem forall_mem_concat {property : Step (Action Number) → Prop}
    (ofFirst : ∀ step ∈ first.steps, property step)
    (ofSecond : ∀ step ∈ second.steps, property step) :
    ∀ step ∈ (first.concat second).steps, property step :=
  List.forall_mem_append.mpr ⟨ofFirst, ofSecond⟩

theorem forall_mem_inverse {property : Step (Action Number) → Prop}
    (kept : ∀ step, property step → property step.inverse)
    (all : ∀ step ∈ pipeline.steps, property step) :
    ∀ step ∈ pipeline.inverse.steps, property step := by
  intro step member
  rcases List.mem_map.mp member with ⟨original, originalMember, rfl⟩
  exact kept original (all original (List.mem_reverse.mp originalMember))

theorem IsLinear.concat (linearFirst : first.IsLinear) (linearSecond : second.IsLinear) :
    (first.concat second).IsLinear := forall_mem_concat linearFirst linearSecond

@[simp] theorem scale_concat (first second : Pipeline (Action Number)) :
    (first.concat second).scale = first.scale * second.scale := by
  simp [scale, Pipeline.concat]

theorem IsLinear.inverse (linear : pipeline.IsLinear) : pipeline.inverse.IsLinear :=
  forall_mem_inverse (fun _ => Step.IsScaling.inverse) linear

theorem IsAffine.scale_inverse (affine : pipeline.IsAffine) :
    pipeline.inverse.scale = pipeline.scale⁻¹ := by
  have factors : pipeline.steps.map (Step.factor ∘ Step.inverse) =
      (pipeline.steps.map Step.factor).map (·⁻¹) := by
    rw [List.map_map]
    exact List.map_congr_left fun step member => (affine step member).factor_inverse
  rw [scale, scale, Pipeline.inverse, List.map_map, List.map_reverse, List.prod_reverse, factors]
  exact (List.prod_inv _).symm

theorem IsLinear.scale_inverse (linear : pipeline.IsLinear) :
    pipeline.inverse.scale = pipeline.scale⁻¹ := linear.isAffine.scale_inverse

end Pipeline
end Metrology
