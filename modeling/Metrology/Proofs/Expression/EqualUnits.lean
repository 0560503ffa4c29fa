import Mathlib
import Metrology.Proofs.Conversion.Affine
import Metrology.Proofs.Expression.NetPowers
import Metrology.Proofs.Ratio.NameText

/-!
Units that are written alike. Two plans whose units have one symbol multiply the same units
to the same powers, in some order, so that their units have one dimension and one scale.
They convert alike where offsets stand alone. An offset that is one factor of several counts
in which order they come: then the conversions may differ, by the same amount for every
magnitude.
-/

namespace Metrology

namespace MeasurementUnit

/-- A unit that converts by scales and offsets, read as its scale. -/
def affineReading (δ ν : Type) [Dimensional δ] [Literal ν] : Reading δ ν ℚ where
  Reads unit scale := unit.conversion.IsAffine ∧ unit.conversion.scale = scale
  times := by
    rintro left right unit _ _ ⟨affineLeft, rfl⟩ ⟨affineRight, rfl⟩ made
    rw [(times_eq_ok.mp made).2.2.1]
    exact ⟨affineLeft.concat affineRight, Pipeline.scale_concat _ _⟩
  divide := by
    rintro left right unit _ _ ⟨affineLeft, rfl⟩ ⟨affineRight, rfl⟩ made
    rw [(divide_eq_ok.mp made).2.2.1]
    refine ⟨affineLeft.concat affineRight.inverse, ?_⟩
    rw [Pipeline.scale_concat, affineRight.scale_inverse, div_eq_mul_inv]

end MeasurementUnit

namespace Plan

variable {lookup : Lookup StandardUnit}

/-- Names that stand for a unit that is written as one plain name, or not at all, and
converts by scales and offsets. -/
structure IsRegular (lookup : Lookup StandardUnit) (name : String) : Prop
    extends IsCanonical lookup name where
  plain : (resolve lookup name).symbol = "" ∨ IsPlainName (resolve lookup name).symbol
  affine : (resolve lookup name).conversion.IsAffine

/-- Plans in which a unit with an offset stands alone, if there is one at all. -/
def IsolatesOffsets (lookup : Lookup StandardUnit) (plan : Plan) : Prop :=
  (∃ name, plan = .name name) ∨ ∀ factor ∈ plan.factors lookup, factor.1.conversion.IsLinear

/-! ## One plan -/

section Single

variable {plan : Plan} {unit : StandardUnit}
  (regular : ∀ power ∈ plan.powers, IsRegular lookup power.1)

include regular

theorem isCanonical_of_isRegular : ∀ power ∈ plan.powers, IsCanonical lookup power.1 :=
  fun power member => (regular power member).toIsCanonical

theorem isAffine_of_mem_factors : ∀ factor ∈ plan.factors lookup, factor.1.conversion.IsAffine :=
  (forall_mem_factors (·.conversion.IsAffine)).mpr fun power member =>
    (regular power member).affine

variable (made : plan.evaluate lookup = .ok unit)

include made

theorem isProductOf_factors : unit.IsProductOf (plan.factors lookup) :=
  isProductOf_of_evaluate (isSymbolic_of_mem_factors (isCanonical_of_isRegular regular)) made

theorem reads_prod_scale :
    (MeasurementUnit.affineReading (Dimension Number) Number).Reads unit
      ((plan.factors lookup).map fun factor => factor.1.conversion.scale ^ factor.2).prod :=
  reads_factors _ (fun unit => unit.conversion.scale)
    (fun factor member => ⟨isAffine_of_mem_factors regular factor member, rfl⟩) made

theorem isPlainName_of_nameExponents_ne_zero {symbol : String}
    (nonzero : unit.nameExponents symbol ≠ 0) : IsPlainName symbol := by
  rw [nameExponents_eq_netPowers (isCanonical_of_isRegular regular) made] at nonzero
  rcases exists_mem_of_netPowers_ne_zero nonzero with ⟨power, member, rfl⟩
  rcases List.mem_map.mp member with ⟨named, namedMember, rfl⟩
  rcases (regular named namedMember).plain with blank | plain
  · rw [blank, netPowers_blank] at nonzero
    exact absurd rfl nonzero
  · exact plain

end Single

/-! ## Two plans -/

section Pair

variable {first second : Plan} {left right : StandardUnit}
  (regularFirst : ∀ power ∈ first.powers, IsRegular lookup power.1)
  (regularSecond : ∀ power ∈ second.powers, IsRegular lookup power.1)
  (madeLeft : first.evaluate lookup = .ok left) (madeRight : second.evaluate lookup = .ok right)

include regularFirst regularSecond madeLeft madeRight

theorem nameExponents_eq_of_equals (same : left.equals right = true) :
    left.nameExponents = right.nameExponents := by
  have hasLeft := (isProductOf_factors regularFirst madeLeft).symbolic.representation.hasExponents
  have hasRight :=
    (isProductOf_factors regularSecond madeRight).symbolic.representation.hasExponents
  exact (hasLeft.equals_iff hasRight
    (fun _ => isPlainName_of_nameExponents_ne_zero regularFirst madeLeft)
    fun _ => isPlainName_of_nameExponents_ne_zero regularSecond madeRight).mp same

variable (same : left.nameExponents = right.nameExponents)

include same

/-- The conversions differ by the same amount for every magnitude. -/
theorem exists_shift :
    ∃ shift : ℚ, ∀ value : ℚ, ∃ base : ℚ,
      left.toBase value = .ok base ∧ right.toBase value = .ok (base + shift) := by
  rcases reads_prod_scale regularFirst madeLeft with ⟨affineLeft, scaleLeft⟩
  rcases reads_prod_scale regularSecond madeRight with ⟨affineRight, scaleRight⟩
  refine affineLeft.exists_shift affineRight ?_
  rw [scaleLeft, scaleRight]
  exact prod_scale_eq_of_nameExponents_eq (isCanonical_of_isRegular regularFirst)
    (isCanonical_of_isRegular regularSecond) madeLeft madeRight same
    (fun factor member => (isAffine_of_mem_factors regularFirst factor member).scale_ne_zero)
    fun factor member => (isAffine_of_mem_factors regularSecond factor member).scale_ne_zero

/-- A name that is left over in one unit is a factor of the other. -/
theorem exists_factor {name : String} (alone : first = .name name)
    (nonempty : (resolve lookup name).symbol ≠ "") :
    ∃ power ∈ second.powers, resolve lookup power.1 = resolve lookup name := by
  subst alone
  have occurs : netPowers (second.symbolPowers lookup) (resolve lookup name).symbol ≠ 0 := by
    rw [← netPowers_eq_of_nameExponents_eq (isCanonical_of_isRegular regularFirst)
      (isCanonical_of_isRegular regularSecond) madeLeft madeRight same]
    simp [symbolPowers, powers, netPowers, nameVector_of_ne nonempty]
  rcases exists_mem_of_netPowers_ne_zero occurs with ⟨power, member, symbol⟩
  rcases List.mem_map.mp member with ⟨named, namedMember, rfl⟩
  refine ⟨named, namedMember, ?_⟩
  calc
    resolve lookup named.1 = unitOfSymbol lookup (resolve lookup named.1).symbol :=
      (regularSecond named namedMember).unitOfSymbol_symbol.symm
    _ = unitOfSymbol lookup (resolve lookup name).symbol := congrArg _ symbol
    _ = resolve lookup name :=
      (regularFirst (name, 1) (List.mem_singleton_self _)).unitOfSymbol_symbol

/-- A unit with an offset that stands alone is all that the other plan stands for. -/
theorem eq_of_not_isLinear (isolatedFirst : IsolatesOffsets lookup first)
    (isolatedSecond : IsolatesOffsets lookup second)
    (offset : ¬∀ factor ∈ first.factors lookup, factor.1.conversion.IsLinear) : left = right := by
  rcases isolatedFirst.resolve_right offset with ⟨name, rfl⟩
  have notLinear : ¬(resolve lookup name).conversion.IsLinear := by
    intro linear
    refine offset ((forall_mem_factors (·.conversion.IsLinear)).mpr fun power member => ?_)
    rw [List.mem_singleton.mp member]
    exact linear
  have nonempty : (resolve lookup name).symbol ≠ "" := by
    intro blank
    rw [(regularFirst (name, 1) (List.mem_singleton_self _)).blank blank] at notLinear
    exact notLinear Pipeline.isLinear_identity
  rcases exists_factor regularFirst regularSecond madeLeft madeRight same rfl nonempty with
    ⟨power, member, stands⟩
  rcases isolatedSecond with ⟨other, rfl⟩ | linear
  · rw [List.mem_singleton.mp member] at stands
    cases madeLeft
    cases madeRight
    exact stands.symm
  · have linearFactor := (forall_mem_factors (·.conversion.IsLinear)).mp linear power member
    rw [stands] at linearFactor
    exact absurd linearFactor notLinear

/-- Where offsets stand alone, the conversions are the same. -/
theorem toBase_eq (isolatedFirst : IsolatesOffsets lookup first)
    (isolatedSecond : IsolatesOffsets lookup second) (value : ℚ) :
    left.toBase value = right.toBase value := by
  -- An offset in either plan is all of that plan, and then all of the other one too.
  by_cases linearFirst : ∀ factor ∈ first.factors lookup, factor.1.conversion.IsLinear
  · by_cases linearSecond : ∀ factor ∈ second.factors lookup, factor.1.conversion.IsLinear
    · rcases exists_base_of_nameExponents_eq (isCanonical_of_isRegular regularFirst)
        (isCanonical_of_isRegular regularSecond) madeLeft madeRight same linearFirst linearSecond
        value with ⟨base, convertsLeft, convertsRight⟩
      exact convertsLeft.trans convertsRight.symm
    · rw [eq_of_not_isLinear regularSecond regularFirst madeRight madeLeft same.symm
        isolatedSecond isolatedFirst linearSecond]
  · rw [eq_of_not_isLinear regularFirst regularSecond madeLeft madeRight same isolatedFirst
      isolatedSecond linearFirst]

end Pair

end Plan
end Metrology
