import Mathlib
import Metrology.MeasurementUnit
import Metrology.Proofs.Conversion.Exact
import Metrology.Proofs.Ratio.Exponents

/-!
Products, quotients and powers of units. What a unit means is read in a commutative
group: its dimension and its names as exponents, its scale as a number. Each reading is
kept by one product and one quotient, and then by a power as well. Units of names
alone can always be composed.
-/

namespace Metrology

namespace Dimension

variable {left right dimension : Dimension Number}

theorem ofRepresentation_eq_ok {representation : Result (Ratio Number)} :
    (do return ⟨← representation⟩ : Result (Dimension Number)) = .ok dimension ↔
      representation = .ok dimension.representation := by
  rcases dimension with ⟨ratio⟩
  cases representation with
  | ok made => simp
  | error fault => simp

theorem times_eq_ok :
    left.times right = .ok dimension ↔
      left.representation.times right.representation = .ok dimension.representation :=
  ofRepresentation_eq_ok

theorem divide_eq_ok :
    left.divide right = .ok dimension ↔
      left.representation.divide right.representation = .ok dimension.representation :=
  ofRepresentation_eq_ok

end Dimension

namespace MeasurementUnit

/-! ## One composition -/

section Composition

variable {δ ν : Type} {left right unit : MeasurementUnit δ ν}

/-- A composed unit exists when its dimension and its representation do. -/
theorem composed_eq_ok {dimension : Result δ} {representation : Result (Ratio ν)}
    {conversion : Pipeline (Action Number)} {isBase : Bool} :
    (do
      let dimension ← dimension
      let representation ← representation
      return ⟨dimension, representation, conversion, isBase⟩ : Result (MeasurementUnit δ ν)) =
        .ok unit ↔
      dimension = .ok unit.dimension ∧ representation = .ok unit.representation ∧
        unit.conversion = conversion ∧ unit.isBase = isBase := by
  constructor
  · intro made
    rcases Result.bind_eq_ok.mp made with ⟨measured, dimensionMade, rest⟩
    rcases Result.bind_eq_ok.mp rest with ⟨written, representationMade, composed⟩
    cases composed
    exact ⟨dimensionMade, representationMade, rfl, rfl⟩
  · rcases unit with ⟨measured, written, composed, isOriginal⟩
    rintro ⟨rfl, rfl, rfl, rfl⟩
    rfl

variable [Dimensional δ] [Literal ν]

/-- All that a product is. -/
theorem times_eq_ok :
    left.times right = .ok unit ↔
      Dimensional.times left.dimension right.dimension = .ok unit.dimension ∧
        left.representation.times right.representation = .ok unit.representation ∧
        unit.conversion = left.conversion.concat right.conversion ∧ unit.isBase = false :=
  composed_eq_ok

/-- All that a quotient is. -/
theorem divide_eq_ok :
    left.divide right = .ok unit ↔
      Dimensional.divide left.dimension right.dimension = .ok unit.dimension ∧
        left.representation.divide right.representation = .ok unit.representation ∧
        unit.conversion = left.conversion.concat right.conversion.inverse ∧
        unit.isBase = false :=
  composed_eq_ok

theorem power_of_one_le {exponent : ℤ} (positive : 1 ≤ exponent) :
    unit.power (.number (.int exponent)) = unit.powerNat exponent.toNat := by
  rw [power, if_neg (by omega)]

/-- A power that exists has an integer of at least one for its exponent. -/
theorem exists_exponent_of_power {base : MeasurementUnit δ ν} {exponent : Scalar}
    (made : base.power exponent = .ok unit) :
    ∃ value : ℤ, exponent = .number (.int value) ∧ 1 ≤ value := by
  unfold power at made
  split at made
  · next value =>
      split at made
      · rcases Result.bind_eq_ok.mp made with ⟨_, _, thrown⟩
        cases thrown
      · exact ⟨value, rfl, by omega⟩
  · rcases Result.bind_eq_ok.mp made with ⟨_, _, thrown⟩
    cases thrown

end Composition

/-! ## Readings -/

/-- A meaning of units in a commutative group that products and quotients keep. -/
structure Reading (δ ν G : Type) [Dimensional δ] [Literal ν] [DivisionCommMonoid G] where
  Reads : MeasurementUnit δ ν → G → Prop
  times {left right unit : MeasurementUnit δ ν} {first second : G} :
    Reads left first → Reads right second → left.times right = .ok unit →
      Reads unit (first * second)
  divide {left right unit : MeasurementUnit δ ν} {first second : G} :
    Reads left first → Reads right second → left.divide right = .ok unit →
      Reads unit (first / second)

namespace Reading

variable {δ ν G : Type} [Dimensional δ] [Literal ν] [DivisionCommMonoid G]
  (reading : Reading δ ν G) {unit start raised : MeasurementUnit δ ν} {meaning initial : G}

theorem multiplyOn (reads : reading.Reads unit meaning) (count : ℕ)
    (readsStart : reading.Reads start initial) (made : unit.multiplyOn start count = .ok raised) :
    reading.Reads raised (meaning ^ count * initial) := by
  induction count generalizing start initial with
  | zero =>
      cases made
      simpa using readsStart
  | succ count induction =>
      rcases Result.bind_eq_ok.mp made with ⟨next, multiplied, remaining⟩
      have total := induction (reading.times reads readsStart multiplied) remaining
      rwa [← mul_assoc, ← pow_succ] at total

/-- A power is read as the power of what its base is read as. -/
theorem power (reads : reading.Reads unit meaning) {exponent : ℤ} (positive : 1 ≤ exponent)
    (made : unit.power (.number (.int exponent)) = .ok raised) :
    reading.Reads raised (meaning ^ exponent) := by
  rw [power_of_one_le positive, powerNat] at made
  have total := reading.multiplyOn reads (exponent.toNat - 1) reads made
  rwa [← pow_succ, ← zpow_natCast,
    show ((exponent.toNat - 1 + 1 : ℕ) : ℤ) = exponent by omega] at total

end Reading

/-! ## Scales -/

/-- A unit whose conversion only scales, read as its scale. -/
def scaleReading (δ ν : Type) [Dimensional δ] [Literal ν] : Reading δ ν ℚ where
  Reads unit scale := unit.conversion.IsLinear ∧ unit.conversion.scale = scale
  times := by
    rintro left right unit _ _ ⟨linearLeft, rfl⟩ ⟨linearRight, rfl⟩ made
    rw [(times_eq_ok.mp made).2.2.1]
    exact ⟨linearLeft.concat linearRight, Pipeline.scale_concat _ _⟩
  divide := by
    rintro left right unit _ _ ⟨linearLeft, rfl⟩ ⟨linearRight, rfl⟩ made
    rw [(divide_eq_ok.mp made).2.2.1]
    refine ⟨linearLeft.concat linearRight.inverse, ?_⟩
    rw [Pipeline.scale_concat, linearRight.scale_inverse, div_eq_mul_inv]

/-! ## Names -/

/-- Units whose dimension and representation are made of names only. -/
structure IsSymbolic (unit : StandardUnit) : Prop where
  dimension : unit.dimension.representation.IsSymbolic
  representation : unit.representation.IsSymbolic

/-- The exponents of the symbols of base dimensions in the dimension of a unit. -/
def dimensionExponents (unit : StandardUnit) : String → ℤ :=
  unit.dimension.representation.symbolic.exponent

/-- The exponents of the names in the representation of a unit. -/
def nameExponents (unit : StandardUnit) : String → ℤ := unit.representation.symbolic.exponent

variable {left right unit : StandardUnit}

theorem isSymbolic_ofSymbol {dimension : Dimension Number}
    (symbolic : dimension.representation.IsSymbolic) (symbol : String) :
    (ofSymbol dimension symbol).IsSymbolic := ⟨symbolic, _, rfl⟩

theorem isSymbolic_one : (one : StandardUnit).IsSymbolic := ⟨⟨_, rfl⟩, _, rfl⟩

/-- A unit read as the exponents of its names, where its representation is made of
names only. -/
def nameReading (δ : Type) [Dimensional δ] :
    Reading δ Number (Multiplicative (String → ℤ)) where
  Reads unit exponents := unit.representation.HasExponents (0, exponents.toAdd)
  times := by
    intro left right unit first second hasLeft hasRight made
    simpa using hasLeft.times hasRight (times_eq_ok.mp made).2.1
  divide := by
    intro left right unit first second hasLeft hasRight made
    simpa using hasLeft.divide hasRight (divide_eq_ok.mp made).2.1

/-- A unit read as the exponents of base dimensions, where its dimension is made of
names only. -/
def dimensionReading (ν : Type) [Literal ν] :
    Reading (Dimension Number) ν (Multiplicative (String → ℤ)) where
  Reads unit exponents := unit.dimension.representation.HasExponents (0, exponents.toAdd)
  times := by
    intro left right unit first second hasLeft hasRight made
    simpa using hasLeft.times hasRight (Dimension.times_eq_ok.mp (times_eq_ok.mp made).1)
  divide := by
    intro left right unit first second hasLeft hasRight made
    simpa using hasLeft.divide hasRight (Dimension.divide_eq_ok.mp (divide_eq_ok.mp made).1)

namespace IsSymbolic

theorem exists_times (symbolicLeft : left.IsSymbolic) (symbolicRight : right.IsSymbolic) :
    ∃ unit, left.times right = .ok unit ∧ unit.IsSymbolic := by
  rcases symbolicLeft.dimension.hasExponents.exists_times
    symbolicRight.dimension.hasExponents with ⟨dimension, measured, hasDimension⟩
  rcases symbolicLeft.representation.hasExponents.exists_times
    symbolicRight.representation.hasExponents with ⟨representation, written, hasNames⟩
  refine ⟨⟨⟨dimension⟩, representation, _, _⟩,
    times_eq_ok.mpr ⟨Dimension.times_eq_ok.mpr measured, written, rfl, rfl⟩, ?_⟩
  exact ⟨hasDimension.isSymbolic, hasNames.isSymbolic⟩

theorem exists_divide (symbolicLeft : left.IsSymbolic) (symbolicRight : right.IsSymbolic) :
    ∃ unit, left.divide right = .ok unit ∧ unit.IsSymbolic := by
  rcases symbolicLeft.dimension.hasExponents.exists_divide
    symbolicRight.dimension.hasExponents with ⟨dimension, measured, hasDimension⟩
  rcases symbolicLeft.representation.hasExponents.exists_divide
    symbolicRight.representation.hasExponents with ⟨representation, written, hasNames⟩
  refine ⟨⟨⟨dimension⟩, representation, _, _⟩,
    divide_eq_ok.mpr ⟨Dimension.divide_eq_ok.mpr measured, written, rfl, rfl⟩, ?_⟩
  exact ⟨hasDimension.isSymbolic, hasNames.isSymbolic⟩

theorem exists_multiplyOn (symbolic : unit.IsSymbolic) (count : ℕ) {start : StandardUnit}
    (symbolicStart : start.IsSymbolic) :
    ∃ raised, unit.multiplyOn start count = .ok raised ∧ raised.IsSymbolic := by
  induction count generalizing start with
  | zero => exact ⟨start, rfl, symbolicStart⟩
  | succ count induction =>
      rcases symbolic.exists_times symbolicStart with ⟨next, multiplied, symbolicNext⟩
      rw [multiplyOn, multiplied]
      exact induction symbolicNext

theorem exists_power (symbolic : unit.IsSymbolic) {exponent : ℤ} (positive : 1 ≤ exponent) :
    ∃ raised, unit.power (.number (.int exponent)) = .ok raised ∧ raised.IsSymbolic := by
  rw [power_of_one_le positive, powerNat]
  exact symbolic.exists_multiplyOn _ symbolic

end IsSymbolic

end MeasurementUnit

/-! ## Products of powers -/

namespace Dimension

/-- The product of dimensions, each raised to an integer. -/
def productOfPowers : List (Dimension Number × ℤ) → Result (Dimension Number)
  | [] => .ok dimensionless
  | (dimension, exponent) :: rest => do
      (← dimension.power exponent).times (← productOfPowers rest)

/-- Dimensions of names alone have a product, whose exponents are those of the factors
times what they are raised to. -/
theorem exists_productOfPowers (powers : List (Dimension Number × ℤ))
    (symbolic : ∀ power ∈ powers, power.1.representation.IsSymbolic) :
    ∃ product, productOfPowers powers = .ok product ∧
      product.representation.HasExponents
        (0, (powers.map fun power => power.2 • power.1.representation.symbolic.exponent).sum) := by
  induction powers with
  | nil => exact ⟨dimensionless, rfl, Ratio.hasExponents_one⟩
  | cons power rest induction =>
      rcases power with ⟨dimension, exponent⟩
      rcases induction fun other member => symbolic other (List.mem_cons_of_mem _ member) with
        ⟨others, made, hasOthers⟩
      rcases (symbolic _ (List.mem_cons_self ..)).hasExponents.exists_power exponent with
        ⟨raised, powered, hasRaised⟩
      rcases hasRaised.exists_times hasOthers with ⟨ratio, multiplied, hasProduct⟩
      refine ⟨⟨ratio⟩, ?_, hasProduct⟩
      rw [productOfPowers, Dimension.power, powered, made]
      exact times_eq_ok.mpr multiplied

end Dimension

namespace MeasurementUnit

/-- What the product of factors, each raised to an integer, is as a unit of names: in
its dimension, in its names, and in its conversion when all factors only scale. -/
structure IsProductOf (unit : StandardUnit) (factors : List (StandardUnit × ℤ)) : Prop where
  symbolic : unit.IsSymbolic
  dimension : ∃ product,
    Dimension.productOfPowers (factors.map fun factor => (factor.1.dimension, factor.2)) =
      .ok product ∧ unit.dimension.equals product = true
  dimensionExponents : unit.dimensionExponents =
    (factors.map fun factor => factor.2 • factor.1.dimensionExponents).sum
  nameExponents : unit.nameExponents =
    (factors.map fun factor => factor.2 • factor.1.nameExponents).sum
  toBase : (∀ factor ∈ factors, factor.1.conversion.IsLinear) → ∀ value : ℚ,
    unit.toBase value =
      .ok (value * (factors.map fun factor => factor.1.conversion.scale ^ factor.2).prod)

end MeasurementUnit
end Metrology
