import Mathlib
import Metrology.Proofs.MeasurementUnit.Composition
import Metrology.Proofs.Quantity.Conversion

/-!
What arithmetic on quantities means, read exactly. In units that only scale, sums,
differences, products and quotients of quantities are those of their base values. Sums
need one dimension; products and quotients need a unit to be in, which fails to exist
only where the symbols of the operands cannot be composed.
-/

namespace Metrology
namespace Quantity

/-! ## Base values -/

/-- Two quantities in units that only scale, and scale alike where they are written
alike. -/
structure LinearPair (left right : StandardQuantity ℚ) : Prop where
  linearLeft : left.unit.conversion.IsLinear
  linearRight : right.unit.conversion.IsLinear
  sameSymbol : left.unit.equals right.unit = true →
    left.unit.conversion.scale = right.unit.conversion.scale

variable {left right : StandardQuantity ℚ}

theorem toBase_of_isLinear {unit : StandardUnit} (linear : unit.conversion.IsLinear)
    (value : ℚ) :
    (⟨value, unit⟩ : StandardQuantity ℚ).toBase = .ok (value * unit.conversion.scale) :=
  linear.apply_eq value

/-! ## Sums -/

/-- The right magnitude in the unit of the left is its base value over the left scale. -/
theorem reading_eq (pair : LinearPair left right)
    (compatible : left.unit.dimension.equals right.unit.dimension = true) :
    left.reading right =
      .ok (right.value * right.unit.conversion.scale / left.unit.conversion.scale) := by
  have reversed := Dimension.equals_symm compatible
  have consistent (same : right.unit.equals left.unit = true) :
      Equiv.mulRight₀ right.unit.conversion.scale pair.linearRight.scale_ne_zero =
        Equiv.mulRight₀ left.unit.conversion.scale pair.linearLeft.scale_ne_zero := by
    rw [MeasurementUnit.equals_comm] at same
    simp only [pair.sameSymbol same]
  rcases exists_convert pair.linearRight.realizes pair.linearLeft.realizes reversed consistent
    right.value with ⟨unit, _, _, _, converted⟩
  rw [reading, requireCompatible_of_equals compatible, Result.ok_bind, converted,
    div_eq_mul_inv]
  rfl

theorem exists_add (pair : LinearPair left right)
    (compatible : left.unit.dimension.equals right.unit.dimension = true) :
    ∃ total, left.add right = .ok total ∧ total.unit = left.unit ∧ total.toBase =
      .ok (left.value * left.unit.conversion.scale +
        right.value * right.unit.conversion.scale) := by
  refine ⟨⟨left.value +
    right.value * right.unit.conversion.scale / left.unit.conversion.scale, left.unit⟩,
    ?_, rfl, ?_⟩
  · rw [add, reading_eq pair compatible]
    rfl
  · rw [toBase_of_isLinear pair.linearLeft, add_mul,
      div_mul_cancel₀ _ pair.linearLeft.scale_ne_zero]

theorem exists_subtract (pair : LinearPair left right)
    (compatible : left.unit.dimension.equals right.unit.dimension = true) :
    ∃ rest, left.subtract right = .ok rest ∧ rest.unit = left.unit ∧ rest.toBase =
      .ok (left.value * left.unit.conversion.scale -
        right.value * right.unit.conversion.scale) := by
  refine ⟨⟨left.value -
    right.value * right.unit.conversion.scale / left.unit.conversion.scale, left.unit⟩,
    ?_, rfl, ?_⟩
  · rw [subtract, reading_eq pair compatible]
    rfl
  · rw [toBase_of_isLinear pair.linearLeft, sub_mul,
      div_mul_cancel₀ _ pair.linearLeft.scale_ne_zero]

theorem reading_of_not_equals
    (different : left.unit.dimension.equals right.unit.dimension = false) :
    left.reading right = .error (.incompatible left.unit.symbol right.unit.symbol) := by
  rw [reading, requireCompatible_of_not_equals different, Result.error_bind]

/-! ## Products -/

/-- A composed quantity is in the composed unit, and measures what that unit measures
with the given base value. Without a unit there is no quantity, for the same reason. -/
structure ComposedIn (composed : Result (StandardQuantity ℚ)) (unit : Result StandardUnit)
    (dimension : Result (Dimension Number)) (base : ℚ) : Prop where
  success : ∀ made, unit = .ok made → ∃ quantity, composed = .ok quantity ∧
    quantity.unit = made ∧ dimension = .ok quantity.unit.dimension ∧ quantity.toBase = .ok base
  failure : ∀ fault, unit = .error fault → composed = .error fault

theorem composedIn {unit : Result StandardUnit} {dimension : Result (Dimension Number)}
    {value scale : ℚ}
    (composes : ∀ made, unit = .ok made → dimension = .ok made.dimension ∧
      made.conversion.IsLinear ∧ made.conversion.scale = scale) :
    ComposedIn (do return ⟨value, ← unit⟩) unit dimension (value * scale) := by
  constructor
  · intro made composed
    rcases composes made composed with ⟨measured, linear, rfl⟩
    refine ⟨⟨value, made⟩, ?_, rfl, measured, toBase_of_isLinear linear value⟩
    rw [composed]
    rfl
  · intro fault failed
    rw [failed]
    rfl

theorem times_composedIn (linearLeft : left.unit.conversion.IsLinear)
    (linearRight : right.unit.conversion.IsLinear) :
    ComposedIn (left.times right) (left.unit.times right.unit)
      (left.unit.dimension.times right.unit.dimension)
      (left.value * right.value *
        (left.unit.conversion.scale * right.unit.conversion.scale)) := by
  refine composedIn fun made composed => ⟨?_, ?_⟩
  · exact (MeasurementUnit.times_eq_ok.mp composed).1
  · exact (MeasurementUnit.scaleReading _ _).times ⟨linearLeft, rfl⟩ ⟨linearRight, rfl⟩ composed

theorem divide_composedIn (left right : StandardQuantity ℚ)
    (linearLeft : left.unit.conversion.IsLinear)
    (linearRight : right.unit.conversion.IsLinear) (nonzero : right.value ≠ 0) :
    ComposedIn (left.divide right) (left.unit.divide right.unit)
      (left.unit.dimension.divide right.unit.dimension)
      (left.value / right.value *
        (left.unit.conversion.scale / right.unit.conversion.scale)) := by
  have divided : Arithmetic.div left.value right.value = .ok (left.value / right.value) :=
    if_neg nonzero
  rw [divide, divided, Result.ok_bind]
  refine composedIn fun made composed => ⟨?_, ?_⟩
  · exact (MeasurementUnit.divide_eq_ok.mp composed).1
  · exact (MeasurementUnit.scaleReading _ _).divide ⟨linearLeft, rfl⟩ ⟨linearRight, rfl⟩ composed

/-- A number over a quantity is the quotient of a pure number and the quantity. -/
theorem divideInto_composedIn (dividend : ℚ) (quantity : StandardQuantity ℚ)
    (linear : quantity.unit.conversion.IsLinear) (nonzero : quantity.value ≠ 0) :
    ComposedIn (quantity.divideInto dividend) quantity.unit.reciprocal
      (Dimension.dimensionless.divide quantity.unit.dimension)
      (dividend / quantity.value * (1 / quantity.unit.conversion.scale)) :=
  divide_composedIn ⟨dividend, .one⟩ quantity Pipeline.isLinear_identity linear nonzero

/-! ## All operations -/

/-- What the operations on two quantities with base values `x` and `y` give. -/
structure BaseArithmetic (left right : StandardQuantity ℚ) (x y : ℚ) : Prop where
  sum : left.unit.dimension.equals right.unit.dimension = true →
    ∃ total, left.add right = .ok total ∧ total.unit = left.unit ∧ total.toBase = .ok (x + y)
  difference : left.unit.dimension.equals right.unit.dimension = true →
    ∃ rest, left.subtract right = .ok rest ∧ rest.unit = left.unit ∧ rest.toBase = .ok (x - y)
  incompatible : left.unit.dimension.equals right.unit.dimension = false →
    left.add right = .error (.incompatible left.unit.symbol right.unit.symbol) ∧
      left.subtract right = .error (.incompatible left.unit.symbol right.unit.symbol)
  product : ComposedIn (left.times right) (left.unit.times right.unit)
    (left.unit.dimension.times right.unit.dimension) (x * y)
  quotient : right.value ≠ 0 → ComposedIn (left.divide right) (left.unit.divide right.unit)
    (left.unit.dimension.divide right.unit.dimension) (x / y)
  scaled : ∀ factor : ℚ, ∃ multiple, left.scale factor = .ok multiple ∧
    scaleLeft factor left = .ok multiple ∧ multiple.unit = left.unit ∧
    multiple.toBase = .ok (factor * x)
  negated : ∃ opposite, left.negate = .ok opposite ∧ opposite.unit = left.unit ∧
    opposite.toBase = .ok (-x)
  reciprocal : left.value ≠ 0 → ∀ dividend : ℚ,
    ComposedIn (left.divideInto dividend) left.unit.reciprocal
      (Dimension.dimensionless.divide left.unit.dimension) (dividend / x)

/-- Arithmetic on quantities is arithmetic on base values. Units and dimensions of
names alone can always be composed. -/
theorem arithmetic_on_base_values (left right : StandardQuantity ℚ)
    (pair : LinearPair left right) :
    (∃ x y, left.toBase = .ok x ∧ right.toBase = .ok y ∧ BaseArithmetic left right x y) ∧
      (left.unit.IsSymbolic → right.unit.IsSymbolic →
        (∃ unit, left.unit.times right.unit = .ok unit) ∧
          (∃ unit, left.unit.divide right.unit = .ok unit) ∧
          ∃ unit, left.unit.reciprocal = .ok unit) := by
  refine ⟨⟨_, _, toBase_of_isLinear pair.linearLeft left.value,
    toBase_of_isLinear pair.linearRight right.value, ?_⟩, ?_⟩
  · exact {
      sum := exists_add pair
      difference := exists_subtract pair
      incompatible := by
        intro different
        rw [add, subtract, reading_of_not_equals different]
        exact ⟨rfl, rfl⟩
      product := by
        rw [mul_mul_mul_comm]
        exact times_composedIn pair.linearLeft pair.linearRight
      quotient := by
        intro nonzero
        rw [← div_mul_div_comm]
        exact divide_composedIn left right pair.linearLeft pair.linearRight nonzero
      scaled := by
        intro factor
        refine ⟨⟨factor * left.value, left.unit⟩, ?_, rfl, rfl, ?_⟩
        · rw [mul_comm]
          rfl
        · rw [toBase_of_isLinear pair.linearLeft, mul_assoc]
      negated := by
        refine ⟨⟨-left.value, left.unit⟩, rfl, rfl, ?_⟩
        rw [toBase_of_isLinear pair.linearLeft, neg_mul]
      reciprocal := by
        intro nonzero dividend
        have composed := divideInto_composedIn dividend left pair.linearLeft nonzero
        rwa [div_mul_div_comm, mul_one] at composed }
  · intro symbolicLeft symbolicRight
    rcases symbolicLeft.exists_times symbolicRight with ⟨product, multiplied, _⟩
    rcases symbolicLeft.exists_divide symbolicRight with ⟨quotient, divided, _⟩
    rcases MeasurementUnit.isSymbolic_one.exists_divide symbolicLeft with ⟨inverse, inverted, _⟩
    exact ⟨⟨product, multiplied⟩, ⟨quotient, divided⟩, inverse, inverted⟩

/-- Kilometres and seconds. -/
theorem arithmetic_on_base_values_speed :
    let distance : StandardQuantity ℚ := ⟨3 / 2, Catalogue.kilometre⟩
    let duration : StandardQuantity ℚ := ⟨-4, Catalogue.minute⟩
    LinearPair distance duration ∧
      (∃ x y, distance.toBase = .ok x ∧ duration.toBase = .ok y ∧
        BaseArithmetic distance duration x y) ∧
      ∃ unit, distance.unit.divide duration.unit = .ok unit := by
  intro distance duration
  have pair : LinearPair distance duration := {
    linearLeft := by decide +kernel
    linearRight := by decide +kernel
    sameSymbol := fun same => absurd same (by decide +kernel) }
  have symbolicDistance : distance.unit.IsSymbolic :=
    ⟨⟨⟨["L"], []⟩, by decide +kernel⟩, ⟨["km"], []⟩, by decide +kernel⟩
  have symbolicDuration : duration.unit.IsSymbolic :=
    ⟨⟨⟨["T"], []⟩, by decide +kernel⟩, ⟨["min"], []⟩, by decide +kernel⟩
  have arithmetic := arithmetic_on_base_values distance duration pair
  exact ⟨pair, arithmetic.1, (arithmetic.2 symbolicDistance symbolicDuration).2.1⟩

/-- The ratio zero has no reciprocal: nothing is divided by a quantity in a unit that is
written so, however much of it there is. -/
theorem divide_by_unit_written_zero :
    let zero : StandardUnit := .base .length ⟨⟨⟨[0], []⟩, .empty⟩, "0"⟩
    let metres : StandardQuantity ℚ := ⟨1, Catalogue.metre⟩
    let divisor : StandardQuantity ℚ := ⟨1, zero⟩
    Ratio.ofTerm (.literal 0) = .ok zero.representation ∧ LinearPair metres divisor ∧
      divisor.value ≠ 0 ∧ metres.divide divisor = .error .divisionByZero := by
  intro zero metres divisor
  have undivided : Catalogue.metre.representation.divide zero.representation =
      .error .divisionByZero := by decide +kernel
  have measured : Dimensional.divide Catalogue.metre.dimension zero.dimension =
      .ok Dimension.dimensionless := by decide +kernel
  have composed : metres.unit.divide divisor.unit = .error .divisionByZero := by
    rw [MeasurementUnit.divide, measured, Result.ok_bind, undivided, Result.error_bind]
  have pair : LinearPair metres divisor := {
    linearLeft := Pipeline.isLinear_identity
    linearRight := Pipeline.isLinear_identity
    sameSymbol := fun same => absurd same (by decide +kernel) }
  refine ⟨by decide +kernel, pair, one_ne_zero, ?_⟩
  rw [divide, composed]
  rfl

end Quantity
end Metrology
