import Mathlib
import Metrology.Proofs.Expression.Evaluation

/-!
What a plan asks for depends on the net power of each symbol only. Where every name
stands for a unit that is written as one symbol, two plans whose units are written with
the same net powers have the same dimension and the same scale, in whatever order and
however often their factors come.
-/

namespace Metrology

/-! ## Net powers -/

/-- The exponents of a single name. The empty name stands for no name. -/
noncomputable def nameVector (name : String) : String →₀ ℤ :=
  if name = "" then 0 else Finsupp.single name 1

/-- The exponents of a product of powers. -/
noncomputable def netPowers (powers : List (String × ℤ)) : String →₀ ℤ :=
  (powers.map fun power => power.2 • nameVector power.1).sum

theorem nameVector_of_ne {name : String} (nonempty : name ≠ "") :
    nameVector name = Finsupp.single name 1 := if_neg nonempty

theorem coe_netPowers (powers : List (String × ℤ)) :
    ⇑(netPowers powers) = (powers.map fun power => power.2 • ⇑(nameVector power.1)).sum := by
  have coerced := map_list_sum (Finsupp.coeFnAddHom : (String →₀ ℤ) →+ String → ℤ)
    (powers.map fun power => power.2 • nameVector power.1)
  rw [List.map_map] at coerced
  exact coerced

theorem netPowers_cons (power : String × ℤ) (others : List (String × ℤ)) :
    netPowers (power :: others) = power.2 • nameVector power.1 + netPowers others := rfl

theorem netPowers_append (first second : List (String × ℤ)) :
    netPowers (first ++ second) = netPowers first + netPowers second := by
  simp [netPowers]

theorem netPowers_map_neg (powers : List (String × ℤ)) :
    netPowers (powers.map fun power => (power.1, -power.2)) = -netPowers powers := by
  induction powers with
  | nil => simp [netPowers]
  | cons power others induction =>
      rw [List.map_cons, netPowers_cons, netPowers_cons, induction, neg_smul, neg_add]

theorem nameVector_blank (name : String) : nameVector name "" = 0 := by
  rw [nameVector]
  split
  · rfl
  · next nonempty => exact Finsupp.single_eq_of_ne (Ne.symm nonempty)

theorem nameVector_of_different {name other : String} (different : name ≠ other) :
    nameVector name other = 0 := by
  rw [nameVector]
  split <;> simp [different]

theorem netPowers_eq_zero {powers : List (String × ℤ)} {name : String}
    (absent : ∀ power ∈ powers, nameVector power.1 name = 0) : netPowers powers name = 0 := by
  induction powers with
  | nil => rfl
  | cons power others induction =>
      have remaining := induction fun other member => absent other (List.mem_cons_of_mem _ member)
      simp [netPowers_cons, absent power (List.mem_cons_self ..), remaining]

theorem netPowers_blank (powers : List (String × ℤ)) : netPowers powers "" = 0 :=
  netPowers_eq_zero fun power _ => nameVector_blank power.1

/-- Only names that occur have a net power. -/
theorem exists_mem_of_netPowers_ne_zero {powers : List (String × ℤ)} {name : String}
    (nonzero : netPowers powers name ≠ 0) : ∃ power ∈ powers, power.1 = name := by
  by_contra none
  refine nonzero (netPowers_eq_zero fun power member => nameVector_of_different ?_)
  exact fun same => none ⟨power, member, same⟩

section Sums

variable {first second : List (String × ℤ)}

/-- A sum over powers depends on net powers only. -/
theorem sum_eq_of_netPowers_eq {M : Type} [AddCommGroup M] (value : String → M)
    (blank : value "" = 0) (same : netPowers first = netPowers second) :
    (first.map fun power => power.2 • value power.1).sum =
      (second.map fun power => power.2 • value power.1).sum := by
  have linear (powers : List (String × ℤ)) :
      (powers.map fun power => power.2 • value power.1).sum =
        Finsupp.linearCombination ℤ value (netPowers powers) := by
    rw [netPowers, map_list_sum, List.map_map]
    congr 1
    apply List.map_congr_left
    rintro ⟨name, exponent⟩ _
    by_cases empty : name = ""
    · simp [nameVector, empty, blank]
    · simp [nameVector_of_ne empty]
  rw [linear, linear, same]

/-- A product over powers depends on net powers only. -/
theorem prod_eq_of_netPowers_eq (value : String → ℚˣ) (blank : value "" = 1)
    (same : netPowers first = netPowers second) :
    (first.map fun power => (value power.1 : ℚ) ^ power.2).prod =
      (second.map fun power => (value power.1 : ℚ) ^ power.2).prod := by
  have units (powers : List (String × ℤ)) :
      (powers.map fun power => (value power.1 : ℚ) ^ power.2).prod =
        ((powers.map fun power => power.2 • Additive.ofMul (value power.1)).sum.toMul : ℚˣ) := by
    induction powers with
    | nil => rfl
    | cons power rest induction => simp [induction]
  have sums := sum_eq_of_netPowers_eq (fun name => Additive.ofMul (value name)) (by simp [blank]) same
  rw [units, units, sums]

end Sums

theorem Ratio.exponent_ofName (name : String) :
    (Ratio.ofName name : Ratio Number).symbolic.exponent = ⇑(nameVector name) := by
  have names : (Ratio.ofName name : Ratio Number).symbolic =
      Fraction.cancel ⟨if name = "" then [] else [name], []⟩ := by
    simp [ofName, ofNames, Term.names, String.isEmpty_iff]
  rw [names, Fraction.exponent_cancel]
  funext other
  by_cases empty : name = ""
  · simp [Fraction.exponent, nameVector, empty]
  · simp [Fraction.exponent, nameVector_of_ne empty, empty, Finsupp.single_apply, List.count_singleton]

/-! ## Plans over symbols -/

namespace Plan

variable {lookup : Lookup StandardUnit}

/-- Names that stand for a unit that is written as one symbol and is found under it. -/
structure IsCanonical (lookup : Lookup StandardUnit) (name : String) : Prop where
  symbolic : (resolve lookup name).dimension.representation.IsSymbolic
  representation : (resolve lookup name).representation =
    Ratio.ofName (resolve lookup name).symbol
  found : resolve lookup (resolve lookup name).symbol = resolve lookup name
  blank : (resolve lookup name).symbol = "" → resolve lookup name = .one

/-- The symbols that a plan multiplies, each with what it is raised to. -/
def symbolPowers (lookup : Lookup StandardUnit) (plan : Plan) : List (String × ℤ) :=
  plan.powers.map fun power => ((resolve lookup power.1).symbol, power.2)

theorem IsCanonical.isSymbolic {name : String} (canonical : IsCanonical lookup name) :
    (resolve lookup name).IsSymbolic :=
  ⟨canonical.symbolic, _, canonical.representation⟩

section Canonical

variable {plan : Plan} {unit : StandardUnit}
  (canonical : ∀ power ∈ plan.powers, IsCanonical lookup power.1)

include canonical

theorem isSymbolic_of_mem_factors :
    ∀ factor ∈ plan.factors lookup, factor.1.IsSymbolic :=
  (forall_mem_factors MeasurementUnit.IsSymbolic).mpr fun power member =>
    (canonical power member).isSymbolic

/-- A plan's unit is written with the net powers of the plan's symbols. -/
theorem nameExponents_eq_netPowers (made : plan.evaluate lookup = .ok unit) :
    unit.nameExponents = ⇑(netPowers (plan.symbolPowers lookup)) := by
  rw [(isProductOf_of_evaluate (isSymbolic_of_mem_factors canonical) made).nameExponents,
    coe_netPowers, factors, symbolPowers, List.map_map, List.map_map]
  congr 1
  apply List.map_congr_left
  intro power member
  have representation := (canonical power member).representation
  change power.2 • (resolve lookup power.1).nameExponents = _
  rw [MeasurementUnit.nameExponents, representation, Ratio.exponent_ofName]
  rfl

end Canonical

/-! ## Two plans with the same net powers -/

/-- The unit under a symbol; the blank symbol is that of pure numbers. -/
def unitOfSymbol (lookup : Lookup StandardUnit) (symbol : String) : StandardUnit :=
  if symbol = "" then .one else resolve lookup symbol

theorem IsCanonical.unitOfSymbol_symbol {name : String} (canonical : IsCanonical lookup name) :
    unitOfSymbol lookup (resolve lookup name).symbol = resolve lookup name := by
  rw [unitOfSymbol]
  split
  · next blank => exact (canonical.blank blank).symm
  · exact canonical.found

theorem factors_eq_map_symbolPowers {plan : Plan}
    (canonical : ∀ power ∈ plan.powers, IsCanonical lookup power.1) :
    plan.factors lookup =
      (plan.symbolPowers lookup).map fun power => (unitOfSymbol lookup power.1, power.2) := by
  rw [factors, symbolPowers, List.map_map]
  apply List.map_congr_left
  intro power member
  exact congrArg (·, power.2) (canonical power member).unitOfSymbol_symbol.symm

/-- The scale of a unit as an invertible number. -/
def scaleUnit (unit : StandardUnit) : ℚˣ :=
  if zero : unit.conversion.scale = 0 then 1 else Units.mk0 _ zero

theorem coe_scaleUnit {unit : StandardUnit} (nonzero : unit.conversion.scale ≠ 0) :
    (scaleUnit unit : ℚ) = unit.conversion.scale := by
  simp [scaleUnit, nonzero]

theorem scaleUnit_one : scaleUnit .one = 1 := Units.ext (coe_scaleUnit one_ne_zero)

section Agreement

variable {first second : Plan} {left right : StandardUnit}
  (canonicalFirst : ∀ power ∈ first.powers, IsCanonical lookup power.1)
  (canonicalSecond : ∀ power ∈ second.powers, IsCanonical lookup power.1)
  (madeFirst : first.evaluate lookup = .ok left) (madeSecond : second.evaluate lookup = .ok right)
  (same : left.nameExponents = right.nameExponents)

include canonicalFirst canonicalSecond madeFirst madeSecond same

theorem netPowers_eq_of_nameExponents_eq :
    netPowers (first.symbolPowers lookup) = netPowers (second.symbolPowers lookup) := by
  rw [nameExponents_eq_netPowers canonicalFirst madeFirst,
    nameExponents_eq_netPowers canonicalSecond madeSecond] at same
  exact DFunLike.coe_injective same

/-- Plans whose units are written alike have units of one dimension. -/
theorem dimension_equals_of_nameExponents_eq :
    left.dimension.equals right.dimension = true := by
  have productFirst := isProductOf_of_evaluate (isSymbolic_of_mem_factors canonicalFirst) madeFirst
  have productSecond :=
    isProductOf_of_evaluate (isSymbolic_of_mem_factors canonicalSecond) madeSecond
  have exponents : left.dimensionExponents = right.dimensionExponents := by
    rw [productFirst.dimensionExponents, productSecond.dimensionExponents,
      factors_eq_map_symbolPowers canonicalFirst, factors_eq_map_symbolPowers canonicalSecond,
      List.map_map, List.map_map]
    exact sum_eq_of_netPowers_eq
      (fun symbol => (unitOfSymbol lookup symbol).dimensionExponents)
      Ratio.hasExponents_one.symbolic
      (netPowers_eq_of_nameExponents_eq canonicalFirst canonicalSecond madeFirst madeSecond same)
  have hasLeft : left.dimension.representation.HasExponents (0, left.dimensionExponents) :=
    productFirst.symbolic.dimension.hasExponents
  rw [exponents] at hasLeft
  exact hasLeft.equals productSecond.symbolic.dimension.hasExponents

/-- Plans whose units are written alike multiply to one scale. -/
theorem prod_scale_eq_of_nameExponents_eq
    (nonzeroFirst : ∀ factor ∈ first.factors lookup, factor.1.conversion.scale ≠ 0)
    (nonzeroSecond : ∀ factor ∈ second.factors lookup, factor.1.conversion.scale ≠ 0) :
    ((first.factors lookup).map fun factor => factor.1.conversion.scale ^ factor.2).prod =
      ((second.factors lookup).map fun factor => factor.1.conversion.scale ^ factor.2).prod := by
  -- Scales that are zero belong to neither plan; a one takes their place to stay in a group.
  have units {plan : Plan} (canonical : ∀ power ∈ plan.powers, IsCanonical lookup power.1)
      (nonzero : ∀ factor ∈ plan.factors lookup, factor.1.conversion.scale ≠ 0) :
      ((plan.factors lookup).map fun factor => factor.1.conversion.scale ^ factor.2).prod =
        ((plan.symbolPowers lookup).map fun power =>
          (scaleUnit (unitOfSymbol lookup power.1) : ℚ) ^ power.2).prod := by
    rw [factors_eq_map_symbolPowers canonical] at nonzero ⊢
    rw [List.map_map]
    congr 1
    apply List.map_congr_left
    intro power member
    have factor := nonzero _ (List.mem_map_of_mem member)
    exact congrArg (· ^ power.2) (coe_scaleUnit factor).symm
  rw [units canonicalFirst nonzeroFirst, units canonicalSecond nonzeroSecond]
  exact prod_eq_of_netPowers_eq (fun symbol => scaleUnit (unitOfSymbol lookup symbol))
    scaleUnit_one
    (netPowers_eq_of_nameExponents_eq canonicalFirst canonicalSecond madeFirst madeSecond same)

/-- Plans of scales whose units are written alike convert alike. -/
theorem exists_base_of_nameExponents_eq
    (linearFirst : ∀ factor ∈ first.factors lookup, factor.1.conversion.IsLinear)
    (linearSecond : ∀ factor ∈ second.factors lookup, factor.1.conversion.IsLinear) (value : ℚ) :
    ∃ base, left.toBase value = .ok base ∧ right.toBase value = .ok base := by
  have productFirst := isProductOf_of_evaluate (isSymbolic_of_mem_factors canonicalFirst) madeFirst
  have productSecond :=
    isProductOf_of_evaluate (isSymbolic_of_mem_factors canonicalSecond) madeSecond
  have scales := prod_scale_eq_of_nameExponents_eq canonicalFirst canonicalSecond madeFirst
    madeSecond same (fun factor member => (linearFirst factor member).scale_ne_zero)
    fun factor member => (linearSecond factor member).scale_ne_zero
  refine ⟨_, productFirst.toBase linearFirst value, ?_⟩
  rw [productSecond.toBase linearSecond value, scales]

end Agreement

end Plan
end Metrology
