import Mathlib
import Metrology.Catalogue
import Metrology.Proofs.Conversion.Affine
import Metrology.Proofs.Conversion.Inversion
import Metrology.Proofs.MeasurementUnit.Composition
import Metrology.Proofs.Number.Rounding

/-!
Units made from base units, and whether magnitudes in them can be converted there and back.
Such a unit converts with scales and offsets only. As long as no factor on the way was zero
the conversion is a permutation of the exact magnitudes. A factor of zero is not refused, and
it stays in the conversion of everything that is made from the unit: there and back, one of
the two directions divides by it.
-/

namespace Metrology

/-! ## Integral factors -/

theorem Binary64.mkRat_signed_mul {unit : ℕ} (positive : 0 < unit) (negative : Bool)
    (magnitude : ℕ) :
    mkRat (signed negative (unit * magnitude)) unit = signed negative magnitude := by
  have nonzero : (unit : ℚ) ≠ 0 := Nat.cast_ne_zero.mpr positive.ne'
  rw [Nat.mul_comm, signed_mul, Rat.mkRat_eq_div, Int.cast_mul, Int.cast_natCast,
    mul_div_cancel_right₀ _ nonzero]

theorem Number.exact?_of_toInt? {value : Binary64} {whole : ℤ}
    (integral : value.toInt? = some whole) :
    Number.exact? (.float value) = some (whole : ℚ) := by
  cases value with
  | infinite negative => cases integral
  | nan mark => cases integral
  | finite negative quanta =>
      rw [Binary64.toInt?, Option.ite_none_right_eq_some] at integral
      rcases integral with ⟨divisible, spelled⟩
      have product := Nat.mul_div_cancel' (Nat.dvd_of_mod_eq_zero divisible)
      rw [← Option.some.inj spelled, Number.exact?, Binary64.quanta?, Option.map_some, ← product,
        Binary64.mkRat_signed_mul Binary64.one_pos, product]

/-- An integral double is the integer that is written for it. -/
theorem Number.exact?_normalize (number : Number) : number.normalize.exact? = number.exact? := by
  cases number with
  | int value => rfl
  | float value =>
      rw [Number.normalize]
      split
      · next whole integral =>
          split
          · exact (Number.exact?_of_toInt? integral).symm
          · rfl
      · rfl

/-! ## Scales by zero -/

namespace Step

/-- Steps that multiply or divide by zero. -/
inductive IsSingular : Step (Action Number) → Prop
  | multiply {constant : Number} (zero : constant.exact? = some 0) (label : String) :
      IsSingular ⟨.times constant, .dividedBy constant, label⟩
  | divide {constant : Number} (zero : constant.exact? = some 0) (label : String) :
      IsSingular ⟨.dividedBy constant, .times constant, label⟩

variable {step : Step (Action Number)}

theorem IsSingular.inverse (singular : step.IsSingular) : step.inverse.IsSingular := by
  cases singular with
  | multiply zero label => exact .divide zero _
  | divide zero label => exact .multiply zero _

/-- Either direction of a scale by zero multiplies, and the other one fails. -/
theorem IsSingular.apply_or_unapply (singular : step.IsSingular) :
    (∀ value : ℚ, step.apply value = .error .divisionByZero) ∨
      (∀ value : ℚ, ∃ next, step.apply value = .ok next) ∧
        ∀ value : ℚ, step.unapply value = .error .divisionByZero := by
  cases singular with
  | multiply zero label =>
      right
      constructor
      · intro value
        exact ⟨value * 0, by simp [apply, Acts.act, Action.act, Arithmetic.constant, Arithmetic.mul,
          Number.exact, zero]⟩
      · intro value
        simp [unapply, Acts.act, Action.act, Arithmetic.constant, Arithmetic.div, Number.exact,
          zero]
  | divide zero label =>
      left
      intro value
      simp [apply, Acts.act, Action.act, Arithmetic.constant, Arithmetic.div, Number.exact, zero]

/-- A step that cannot be carried out divides by zero. -/
theorem apply_eq_error_or_ok (kind : step.IsAffine ∨ step.IsSingular) (value : ℚ) :
    step.apply value = .error .divisionByZero ∨ ∃ next, step.apply value = .ok next := by
  rcases kind with affine | singular
  · rcases affine.exists_apply with ⟨offset, applies⟩
    exact .inr ⟨_, applies value⟩
  · rcases singular.apply_or_unapply with fails | ⟨applies, _⟩
    · exact .inl (fails value)
    · exact .inr (applies value)

theorem IsSingular.not_isAffine (singular : step.IsSingular) : ¬step.IsAffine := by
  intro affine
  cases affine with
  | add exact label => cases singular
  | subtract exact label => cases singular
  | scale scaling =>
      cases singular with
      | multiply zero label =>
          have nonzero := (isScaling_multiply_iff.mp scaling).2
          exact nonzero (by rw [Number.exactValue, zero]; rfl)
      | divide zero label =>
          have nonzero := (isScaling_divide_iff.mp scaling).2
          exact nonzero (by rw [Number.exactValue, zero]; rfl)

/-- A scale by a finite constant is a proper one, or a scale by zero. -/
theorem isAffine_or_isSingular_multiply {constant : Number} (finite : constant.exact?.isSome)
    (label : String) :
    IsAffine ⟨.times constant, .dividedBy constant, label⟩ ∧ constant.exactValue ≠ 0 ∨
      IsSingular ⟨.times constant, .dividedBy constant, label⟩ ∧ constant.exactValue = 0 := by
  cases exact : constant.exact? with
  | none => simp [exact] at finite
  | some amount =>
      have value : constant.exactValue = amount := by rw [Number.exactValue, exact]; rfl
      by_cases zero : amount = 0
      · rw [zero] at exact value
        exact .inr ⟨.multiply exact label, value⟩
      · exact .inl ⟨.scale (.multiply exact zero label), value ▸ zero⟩

theorem isAffine_or_isSingular_normalize {constant : Number} (finite : constant.exact?.isSome)
    (label : String) :
    IsAffine ⟨.times constant.normalize, .dividedBy constant.normalize, label⟩ ∧
        constant.exactValue ≠ 0 ∨
      IsSingular ⟨.times constant.normalize, .dividedBy constant.normalize, label⟩ ∧
        constant.exactValue = 0 := by
  rw [← Number.exact?_normalize] at finite
  have kind := isAffine_or_isSingular_multiply finite label
  rw [Number.exactValue, Number.exact?_normalize] at kind
  exact kind

end Step

namespace Pipeline

variable {pipeline first second : Pipeline (Action Number)} {factors others : Set Number}

theorem apply_unapply_cons (step : Step (Action Number)) (steps : List (Step (Action Number)))
    (value : ℚ) :
    (apply ⟨step :: steps⟩ value >>= unapply ⟨step :: steps⟩) =
      step.apply value >>= fun next =>
        (apply ⟨steps⟩ next >>= unapply ⟨steps⟩) >>= step.unapply := by
  rw [apply_cons, bind_assoc]
  apply bind_congr
  intro next
  rw [bind_assoc]
  apply bind_congr
  intro last
  rw [unapply_cons]

theorem IsAffine.apply_unapply (affine : pipeline.IsAffine) (value : ℚ) :
    (pipeline.apply value >>= pipeline.unapply) = .ok value := by
  rcases affine.exists_realizes with ⟨map, realizes⟩
  rw [(realizes value).1, Result.ok_bind, (realizes (map value)).2, map.symm_apply_apply]

/-- A scale by zero is divided by on the way there or on the way back, whatever the other
steps are. -/
theorem apply_unapply_of_isSingular
    (arithmetic : ∀ step ∈ pipeline.steps, step.IsAffine ∨ step.IsSingular)
    (singular : ∃ step ∈ pipeline.steps, step.IsSingular) (value : ℚ) :
    (pipeline.apply value >>= pipeline.unapply) = .error .divisionByZero := by
  rcases pipeline with ⟨steps⟩
  induction steps generalizing value with
  | nil => simp at singular
  | cons step rest induction =>
      rcases List.forall_mem_cons.mp arithmetic with ⟨first, others⟩
      rw [apply_unapply_cons]
      by_cases inRest : ∃ later ∈ rest, later.IsSingular
      · rcases Step.apply_eq_error_or_ok first value with fails | ⟨next, applied⟩
        · rw [fails, Result.error_bind]
        · rw [applied, Result.ok_bind, induction next others inRest, Result.error_bind]
      · -- The step itself is the scale by zero, and nothing behind it fails.
        have singularStep : step.IsSingular := by
          rcases singular with ⟨found, member, singularFound⟩
          rcases List.mem_cons.mp member with rfl | later
          · exact singularFound
          · exact absurd ⟨found, later, singularFound⟩ inRest
        have affineRest : IsAffine ⟨rest⟩ := by
          intro later member
          apply (others later member).resolve_right
          exact fun singularLater => inRest ⟨later, member, singularLater⟩
        rcases singularStep.apply_or_unapply with fails | ⟨applies, fails⟩
        · rw [fails, Result.error_bind]
        · rcases applies value with ⟨next, applied⟩
          rw [applied, Result.ok_bind, affineRest.apply_unapply, Result.ok_bind, fails]

/-! ## Factors -/

/-- Pipelines of scales and offsets, with a scale by zero just when one of the factors is. -/
structure HasFactors (pipeline : Pipeline (Action Number)) (factors : Set Number) : Prop where
  arithmetic : ∀ step ∈ pipeline.steps, step.IsAffine ∨ step.IsSingular
  singular : (∃ step ∈ pipeline.steps, step.IsSingular) ↔ ∃ factor ∈ factors, factor.exactValue = 0

namespace HasFactors

theorem identity : (Pipeline.identity : Pipeline (Action Number)).HasFactors ∅ where
  arithmetic := by
    intro step member
    cases member
  singular := by simp [Pipeline.identity]

theorem concat (has : first.HasFactors factors) (hasOthers : second.HasFactors others) :
    (first.concat second).HasFactors (factors ∪ others) where
  arithmetic := forall_mem_concat has.arithmetic hasOthers.arithmetic
  singular := by
    simp only [Pipeline.concat, List.mem_append, Set.mem_union, or_and_right, exists_or,
      has.singular, hasOthers.singular]

theorem inverse (has : pipeline.HasFactors factors) : pipeline.inverse.HasFactors factors where
  arithmetic := by
    apply forall_mem_inverse _ has.arithmetic
    intro step kind
    exact kind.imp Step.IsAffine.inverse Step.IsSingular.inverse
  singular := by
    rw [← has.singular]
    constructor
    · rintro ⟨step, member, singular⟩
      rcases List.mem_map.mp member with ⟨original, originalMember, rfl⟩
      have back := singular.inverse
      rw [Step.inverse_inverse] at back
      exact ⟨original, List.mem_reverse.mp originalMember, back⟩
    · rintro ⟨step, member, singular⟩
      exact ⟨step.inverse, List.mem_map_of_mem (List.mem_reverse.mpr member), singular.inverse⟩

theorem single {step : Step (Action Number)} {factor : Number}
    (kind : step.IsAffine ∧ factor.exactValue ≠ 0 ∨
      step.IsSingular ∧ factor.exactValue = 0) :
    (⟨[step]⟩ : Pipeline (Action Number)).HasFactors {factor} where
  arithmetic := by
    rw [List.forall_mem_singleton]
    exact kind.imp And.left And.left
  singular := by
    rcases kind with ⟨affine, nonzero⟩ | ⟨singular, zero⟩
    · have regular : ¬step.IsSingular := fun singular => singular.not_isAffine affine
      simp [regular, nonzero]
    · simp [singular, zero]

theorem cons {step : Step (Action Number)} (affine : step.IsAffine)
    (has : pipeline.HasFactors factors) :
    (⟨step :: pipeline.steps⟩ : Pipeline (Action Number)).HasFactors factors where
  arithmetic := List.forall_mem_cons.mpr ⟨.inl affine, has.arithmetic⟩
  singular := by
    have regular : ¬step.IsSingular := fun singular => singular.not_isAffine affine
    rw [← has.singular]
    simp [regular]

end HasFactors

/-- Without a factor of zero a pipeline of scales and offsets is affine. -/
theorem HasFactors.isAffine (has : pipeline.HasFactors factors)
    (nonzero : ∀ factor ∈ factors, factor.exactValue ≠ 0) : pipeline.IsAffine := by
  intro step member
  rcases has.arithmetic step member with affine | singular
  · exact affine
  · rcases has.singular.mp ⟨step, member, singular⟩ with ⟨factor, factorMember, zero⟩
    exact absurd zero (nonzero factor factorMember)

end Pipeline

/-! ## Units -/

namespace MeasurementUnit

/-! ### Single scales and offsets -/

section Scales

variable {δ ν : Type} {unit : MeasurementUnit δ ν}

theorem conversion_of_scale [Literal ν] {factor : Number} {scaled : MeasurementUnit δ ν}
    (made : unit.scale factor = .ok scaled) :
    ∃ text, scaled.conversion = unit.conversion.push (.multiply factor.normalize text) := by
  rcases Result.bind_eq_ok.mp made with ⟨ratio, _, rest⟩
  rcases Result.bind_eq_ok.mp rest with ⟨representation, _, rest⟩
  rcases Result.bind_eq_ok.mp rest with ⟨text, _, composed⟩
  cases composed
  exact ⟨text, rfl⟩

theorem conversion_of_part [Literal ν] {divisor : Number} {scaled : MeasurementUnit δ ν}
    (made : unit.part divisor = .ok scaled) :
    ∃ text, scaled.conversion = unit.conversion.push (.divide divisor.normalize text) := by
  rcases Result.bind_eq_ok.mp made with ⟨ratio, _, rest⟩
  rcases Result.bind_eq_ok.mp rest with ⟨representation, _, rest⟩
  rcases Result.bind_eq_ok.mp rest with ⟨text, _, composed⟩
  cases composed
  exact ⟨text, rfl⟩

theorem conversion_of_shift {amount : Number} {shifted : MeasurementUnit δ ν}
    (made : unit.shift amount = .ok shifted) :
    ∃ text, shifted.conversion = ⟨.add amount text :: unit.conversion.steps⟩ := by
  rcases Result.bind_eq_ok.mp made with ⟨text, _, composed⟩
  cases composed
  exact ⟨text, rfl⟩

end Scales

/-! ### Construction -/

section Construction

variable {δ ν : Type} [Dimensional δ] [Literal ν] {unit : MeasurementUnit δ ν}
  {factors : Set Number}

/-- Units made from base units, with the numbers that they were scaled by on the way. -/
inductive IsMade : MeasurementUnit δ ν → Set Number → Prop
  | base (dimension : δ) (representation : Ratio ν) : IsMade (base dimension representation) ∅
  | times {left right product : MeasurementUnit δ ν} {factors others : Set Number}
      (madeLeft : IsMade left factors) (madeRight : IsMade right others)
      (made : left.times right = .ok product) : IsMade product (factors ∪ others)
  | divide {left right quotient : MeasurementUnit δ ν} {factors others : Set Number}
      (madeLeft : IsMade left factors) (madeRight : IsMade right others)
      (made : left.divide right = .ok quotient) : IsMade quotient (factors ∪ others)
  | power {unit raised : MeasurementUnit δ ν} {factors : Set Number} {exponent : Scalar}
      (madeUnit : IsMade unit factors) (made : unit.power exponent = .ok raised) :
      IsMade raised factors
  | scale {unit scaled : MeasurementUnit δ ν} {factors : Set Number} {factor : Number}
      (madeUnit : IsMade unit factors) (finite : factor.exact?.isSome)
      (made : unit.scale factor = .ok scaled) : IsMade scaled (insert factor factors)
  | part {unit scaled : MeasurementUnit δ ν} {factors : Set Number} {divisor : Number}
      (madeUnit : IsMade unit factors) (finite : divisor.exact?.isSome)
      (made : unit.part divisor = .ok scaled) : IsMade scaled (insert divisor factors)
  | shift {unit shifted : MeasurementUnit δ ν} {factors : Set Number} {amount : Number}
      (madeUnit : IsMade unit factors) (finite : amount.exact?.isSome)
      (made : unit.shift amount = .ok shifted) : IsMade shifted factors
  | rename {unit : MeasurementUnit δ ν} {factors : Set Number} (madeUnit : IsMade unit factors)
      (representation : Ratio ν) : IsMade (unit.rename representation) factors

theorem hasFactors_multiplyOn (has : unit.conversion.HasFactors factors) (count : ℕ)
    {start raised : MeasurementUnit δ ν} (hasStart : start.conversion.HasFactors factors)
    (made : unit.multiplyOn start count = .ok raised) : raised.conversion.HasFactors factors := by
  induction count generalizing start with
  | zero =>
      cases made
      exact hasStart
  | succ count induction =>
      rcases Result.bind_eq_ok.mp made with ⟨next, multiplied, remaining⟩
      refine induction ?_ remaining
      rw [(times_eq_ok.mp multiplied).2.2.1]
      have both := has.concat hasStart
      rwa [Set.union_self] at both

/-- What a unit was scaled by is what its conversion scales by, in whatever order it was made. -/
theorem IsMade.hasFactors (made : unit.IsMade factors) : unit.conversion.HasFactors factors := by
  induction made with
  | base dimension representation => exact .identity
  | times madeLeft madeRight made hasLeft hasRight =>
      rw [(times_eq_ok.mp made).2.2.1]
      exact hasLeft.concat hasRight
  | divide madeLeft madeRight made hasLeft hasRight =>
      rw [(divide_eq_ok.mp made).2.2.1]
      exact hasLeft.concat hasRight.inverse
  | power madeUnit made has =>
      rcases exists_exponent_of_power made with ⟨exponent, rfl, positive⟩
      rw [power_of_one_le positive] at made
      exact hasFactors_multiplyOn has _ has made
  | @scale unit scaled factors factor madeUnit finite made has =>
      rcases conversion_of_scale made with ⟨text, composed⟩
      rw [composed, Set.insert_eq, Set.union_comm]
      exact has.concat (.single (Step.isAffine_or_isSingular_normalize finite _))
  | @part unit scaled factors divisor madeUnit finite made has =>
      rcases conversion_of_part made with ⟨text, composed⟩
      have kind := Step.isAffine_or_isSingular_normalize finite ("*" ++ text)
      rw [composed, Set.insert_eq, Set.union_comm]
      exact has.concat (.single (kind.imp (And.imp_left Step.IsAffine.inverse)
        (And.imp_left Step.IsSingular.inverse)))
  | @shift unit shifted factors amount madeUnit finite made has =>
      rcases conversion_of_shift made with ⟨text, composed⟩
      rcases Option.isSome_iff_exists.mp finite with ⟨value, exact⟩
      rw [composed]
      exact has.cons (.add exact _)
  | rename madeUnit representation has => exact has

/-- A unit that was scaled by no zero is converted exactly there and back, from any magnitude
and to any magnitude. One that was scaled by zero at any point is not: whatever the magnitude,
one of the two ways divides by zero. -/
theorem invertible_unless_scaled_by_zero (made : unit.IsMade factors) :
    ((∀ factor ∈ factors, factor.exactValue ≠ 0) → ∀ value : ℚ,
      (∃ base, unit.toBase value = .ok base ∧ unit.fromBase base = .ok value) ∧
        ∃ magnitude, unit.fromBase value = .ok magnitude ∧ unit.toBase magnitude = .ok value) ∧
    ((∃ factor ∈ factors, factor.exactValue = 0) → ∀ value : ℚ,
      (unit.toBase value >>= unit.fromBase) = .error .divisionByZero ∧
        (unit.fromBase value >>= unit.toBase) = .error .divisionByZero) := by
  have has := made.hasFactors
  constructor
  · intro nonzero value
    rcases (has.isAffine nonzero).exists_realizes with ⟨map, realizes⟩
    refine ⟨⟨map value, (realizes value).1, ?_⟩, map.symm value, (realizes value).2, ?_⟩
    · have back := (realizes (map value)).2
      rwa [map.symm_apply_apply] at back
    · have forth := (realizes (map.symm value)).1
      rwa [map.apply_symm_apply] at forth
  · intro zero value
    have singular := has.singular.mpr zero
    have back := has.inverse
    constructor
    · exact Pipeline.apply_unapply_of_isSingular has.arithmetic singular value
    · have failing := Pipeline.apply_unapply_of_isSingular back.arithmetic
        (back.singular.mpr zero) value
      have turned : unit.conversion.inverse.unapply (α := ℚ) = unit.conversion.apply :=
        funext (Pipeline.unapply_inverse unit.conversion)
      rwa [Pipeline.apply_inverse, turned] at failing

end Construction

/-! ### A unit of size zero -/

/-- Zero is taken for a factor like any other. -/
def zeroMetres : StandardUnit := Catalogue.known (Catalogue.metre.scale 0)

theorem scale_zero_metre : Catalogue.metre.scale 0 = .ok zeroMetres := by decide +kernel

/-- Pairs of metres times degrees above freezing are converted both ways, though not linearly;
nothing made with a length of zero is. -/
theorem invertible_unless_scaled_by_zero_product :
    let pair := Catalogue.known (Catalogue.metre.scale 2)
    let degree := Catalogue.known (Catalogue.kelvin.shift 273)
    let product := Catalogue.known (pair.times degree)
    let density := Catalogue.known (Catalogue.kilogram.divide (zeroMetres.rename (.ofName "z")))
    (∀ value : ℚ, (∃ base, product.toBase value = .ok base ∧ product.fromBase base = .ok value) ∧
      ∃ magnitude, product.fromBase value = .ok magnitude ∧
        product.toBase magnitude = .ok value) ∧
    ∀ value : ℚ, (density.toBase value >>= density.fromBase) = .error .divisionByZero ∧
      (density.fromBase value >>= density.toBase) = .error .divisionByZero := by
  intro pair degree product density
  have metre : Catalogue.metre.IsMade ∅ := .base _ _
  have kelvin : Catalogue.kelvin.IsMade ∅ := .base _ _
  have kilogram : Catalogue.kilogram.IsMade ∅ := .base _ _
  have madePair : pair.IsMade (insert 2 ∅) := .scale metre (by decide +kernel) (by decide +kernel)
  have shifted : Catalogue.kelvin.shift 273 = .ok degree := by decide +kernel
  have madeDegree : degree.IsMade ∅ := .shift kelvin (by decide +kernel) shifted
  have madeProduct : product.IsMade (insert 2 ∅ ∪ ∅) :=
    .times madePair madeDegree (by decide +kernel)
  have madeZero : zeroMetres.IsMade (insert 0 ∅) :=
    .scale metre (by decide +kernel) scale_zero_metre
  have madeDensity : density.IsMade (∅ ∪ insert 0 ∅) :=
    .divide kilogram (.rename madeZero (.ofName "z")) (by decide +kernel)
  constructor
  · apply (invertible_unless_scaled_by_zero madeProduct).1
    simp only [Set.union_empty, insert_empty_eq, Set.mem_singleton_iff, forall_eq]
    decide +kernel
  · apply (invertible_unless_scaled_by_zero madeDensity).2
    exact ⟨0, .inr (Set.mem_insert _ _), by decide +kernel⟩

/-- From the base unit there is no way back to a unit of size zero. -/
theorem not_invertible_zeroMetres :
    Catalogue.metre.scale 0 = .ok zeroMetres ∧ zeroMetres.symbol = "0 m" ∧
      zeroMetres.toBase (1 : ℚ) = .ok 0 ∧
      zeroMetres.fromBase (0 : ℚ) = .error .divisionByZero := by
  decide +kernel

end MeasurementUnit
end Metrology
