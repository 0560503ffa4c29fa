import Mathlib
import Metrology.Registry
import Metrology.Proofs.MeasurementUnit.Composition
import Metrology.Proofs.Number.IntegerText

/-!
Evaluating a plan is taking a product of powers of what its names stand for. Only an
exponent below one keeps a plan over units of names from having a unit, and the first
such exponent is the one that is reported, where it can be written.
-/

namespace Metrology
namespace Plan

/-! ## Evaluation by structure

Factors are collected along the right spine of a product before they are multiplied.
What comes out is what each node does with the units of its parts. -/

section Structure

variable {υ : Type} [Composable υ] (lookup : Lookup υ)

theorem evaluate_name (symbol : String) :
    evaluate lookup (.name symbol) = .ok (resolve lookup symbol) := rfl

/-- What comes of an exponent below one. One with too many digits cannot be reported. -/
def refusal (exponent : ℤ) : Fault :=
  match integerText exponent with
  | .ok shown => .expressionPower shown
  | .error fault => fault

theorem refusal_eq (exponent : ℤ) :
    refusal exponent = if exponent.natAbs < 10 ^ digitLimit
      then .expressionPower (toString exponent) else .tooManyDigits := by
  rw [refusal]
  split_ifs with short
  · rw [integerText_eq_toString short]
  · rw [integerText_of_long (not_lt.mp short)]

theorem evaluate_power (base : Plan) (exponent : ℤ) :
    evaluate lookup (.power base exponent) = (do
      let unit ← evaluate lookup base
      if exponent < 1 then .error (refusal exponent) else Composable.power unit exponent) := by
  rw [evaluate, evaluate, evaluateFactors]
  simp only [bind_assoc]
  refine bind_congr fun factors => bind_congr fun unit => ?_
  by_cases low : exponent < 1
  · rw [if_pos low, if_pos low, refusal]
    cases integerText exponent <;> rfl
  · simp [low, multiply]

theorem evaluate_product (left right : Plan) :
    evaluate lookup (.product left right) = (do
      let first ← evaluate lookup left
      let second ← evaluate lookup right
      Composable.times first second) := by
  simp [evaluate, evaluateFactors, multiply]

theorem evaluate_quotient (dividend divisor : Plan) :
    evaluate lookup (.quotient dividend divisor) = (do
      let first ← evaluate lookup dividend
      let second ← evaluate lookup divisor
      Composable.divide first second) := by
  simp [evaluate, evaluateFactors, multiply]

end Structure

/-! ## What a plan multiplies -/

/-- The names of a plan in order, each with what it is raised to in all: a power
multiplies, and a divisor changes the sign. -/
def powers : Plan → List (String × ℤ)
  | name symbol => [(symbol, 1)]
  | power base exponent => base.powers.map fun power => (power.1, power.2 * exponent)
  | product left right => left.powers ++ right.powers
  | quotient dividend divisor =>
      dividend.powers ++ divisor.powers.map fun power => (power.1, -power.2)

/-- The exponents that are written in a plan, in the order in which they are reached. -/
def exponents : Plan → List ℤ
  | name _ => []
  | power base exponent => base.exponents ++ [exponent]
  | product left right => left.exponents ++ right.exponents
  | quotient dividend divisor => dividend.exponents ++ divisor.exponents

/-- No exponent has more digits than can be written. -/
def HasShortExponents (plan : Plan) : Prop :=
  ∀ exponent ∈ plan.exponents, exponent.natAbs < 10 ^ digitLimit

/-- The units that a plan multiplies, each with what it is raised to. A name that
nothing is bound to stands for a dimensionless base unit of that name. -/
def factors (lookup : Lookup StandardUnit) (plan : Plan) : List (StandardUnit × ℤ) :=
  plan.powers.map fun power =>
    ((lookup power.1).getD (.ofSymbol .dimensionless power.1), power.2)

theorem forall_mem_factors {lookup : Lookup StandardUnit} {plan : Plan}
    (property : StandardUnit → Prop) :
    (∀ factor ∈ plan.factors lookup, property factor.1) ↔
      ∀ power ∈ plan.powers, property (resolve lookup power.1) := List.forall_mem_map

example : powers (.quotient (.name "m") (.product (.name "s") (.power (.name "kg") 2))) =
    [("m", 1), ("s", -1), ("kg", -2)] := by decide

/-! ## Readings

Whatever products and quotients of units keep, a plan keeps: the induction follows the
plan, and each of its nodes is one composition. -/

section Readings

variable {δ ν G : Type} [Dimensional δ] [Literal ν] [DivisionCommMonoid G]
  (reading : MeasurementUnit.Reading δ ν G) {lookup : Lookup (MeasurementUnit δ ν)}

theorem positive_of_evaluate_power {base : Plan} {exponent : ℤ} {unit : MeasurementUnit δ ν}
    (made : evaluate lookup (.power base exponent) = .ok unit) : 1 ≤ exponent := by
  rw [evaluate_power] at made
  rcases Result.bind_eq_ok.mp made with ⟨first, _, rest⟩
  by_contra low
  rw [if_pos (by omega)] at rest
  cases rest

theorem reads_evaluate (value : String → G) {plan : Plan} {unit : MeasurementUnit δ ν}
    (names : ∀ power ∈ plan.powers, reading.Reads (resolve lookup power.1) (value power.1))
    (made : plan.evaluate lookup = .ok unit) :
    reading.Reads unit (plan.powers.map fun power => value power.1 ^ power.2).prod := by
  induction plan generalizing unit with
  | name symbol =>
      cases made
      simpa [powers] using names (symbol, 1) (List.mem_singleton_self _)
  | power base exponent induction =>
      have positive := positive_of_evaluate_power made
      rw [evaluate_power] at made
      rcases Result.bind_eq_ok.mp made with ⟨first, evaluated, rest⟩
      rw [if_neg (by omega)] at rest
      have namesBase : ∀ power ∈ base.powers,
          reading.Reads (resolve lookup power.1) (value power.1) := fun power member =>
        names (power.1, power.2 * exponent) (List.mem_map.mpr ⟨power, member, rfl⟩)
      have raised := reading.power (induction namesBase evaluated) positive rest
      rw [List.prod_zpow, List.map_map] at raised
      simpa [powers, Function.comp_def, zpow_mul] using raised
  | product left right inductionLeft inductionRight =>
      rw [evaluate_product] at made
      rcases Result.bind_eq_ok.mp made with ⟨first, evaluatedLeft, rest⟩
      rcases Result.bind_eq_ok.mp rest with ⟨second, evaluatedRight, multiplied⟩
      have readsLeft := inductionLeft
        (fun power member => names power (List.mem_append_left _ member)) evaluatedLeft
      have readsRight := inductionRight
        (fun power member => names power (List.mem_append_right _ member)) evaluatedRight
      have total := reading.times readsLeft readsRight multiplied
      rwa [← List.prod_append, ← List.map_append] at total
  | quotient dividend divisor inductionDividend inductionDivisor =>
      rw [evaluate_quotient] at made
      rcases Result.bind_eq_ok.mp made with ⟨first, evaluatedDividend, rest⟩
      rcases Result.bind_eq_ok.mp rest with ⟨second, evaluatedDivisor, divided⟩
      have readsDividend := inductionDividend
        (fun power member => names power (List.mem_append_left _ member)) evaluatedDividend
      have namesDivisor : ∀ power ∈ divisor.powers,
          reading.Reads (resolve lookup power.1) (value power.1) := fun power member =>
        names (power.1, -power.2)
          (List.mem_append_right _ (List.mem_map.mpr ⟨power, member, rfl⟩))
      have total := reading.divide readsDividend (inductionDivisor namesDivisor evaluatedDivisor)
        divided
      rw [div_eq_mul_inv, List.prod_inv, List.map_map] at total
      simpa [powers, Function.comp_def] using total

end Readings

/-! ## Success -/

/-- What comes of a plan, by the first of its exponents that is below one. -/
def Evaluates (lookup : Lookup StandardUnit) (plan : Plan) : Option ℤ → Prop
  | some exponent => plan.evaluate lookup = .error (refusal exponent)
  | none => ∃ unit, plan.evaluate lookup = .ok unit ∧ unit.IsSymbolic

section Success

variable {lookup : Lookup StandardUnit}

/-- Two plans that are evaluated one after the other fail as the first of them does, and
then as the second does. -/
theorem Evaluates.both {first second whole : Plan}
    {next : StandardUnit → StandardUnit → Result StandardUnit}
    (structural : whole.evaluate lookup = (do
      let left ← first.evaluate lookup
      let right ← second.evaluate lookup
      next left right))
    (composes : ∀ left right, left.IsSymbolic → right.IsSymbolic →
      ∃ unit, next left right = .ok unit ∧ unit.IsSymbolic)
    {firstLow secondLow : Option ℤ} (evaluatesFirst : first.Evaluates lookup firstLow)
    (evaluatesSecond : second.Evaluates lookup secondLow) :
    whole.Evaluates lookup (firstLow.or secondLow) := by
  cases firstLow with
  | some low =>
      have failed : first.evaluate lookup = .error (refusal low) := evaluatesFirst
      change whole.evaluate lookup = .error (refusal low)
      rw [structural, failed, Result.error_bind]
  | none =>
      rcases evaluatesFirst with ⟨left, evaluatedFirst, symbolicLeft⟩
      cases secondLow with
      | some low =>
          have failed : second.evaluate lookup = .error (refusal low) := evaluatesSecond
          change whole.evaluate lookup = .error (refusal low)
          rw [structural, evaluatedFirst, Result.ok_bind, failed, Result.error_bind]
      | none =>
          rcases evaluatesSecond with ⟨right, evaluatedSecond, symbolicRight⟩
          rcases composes left right symbolicLeft symbolicRight with ⟨unit, composed, symbolic⟩
          refine ⟨unit, ?_, symbolic⟩
          rw [structural, evaluatedFirst, Result.ok_bind, evaluatedSecond, Result.ok_bind, composed]

/-- Over units of names, the first exponent below one ends the evaluation, and nothing
else does. -/
theorem evaluates_of_isSymbolic {plan : Plan}
    (symbolic : ∀ power ∈ plan.powers, (resolve lookup power.1).IsSymbolic) :
    plan.Evaluates lookup (plan.exponents.find? (· < 1)) := by
  induction plan with
  | name symbol =>
      exact ⟨_, evaluate_name lookup symbol, symbolic (symbol, 1) (List.mem_singleton_self _)⟩
  | power base exponent induction =>
      have induction := induction fun power member =>
        symbolic (power.1, power.2 * exponent) (List.mem_map.mpr ⟨power, member, rfl⟩)
      rw [exponents, List.find?_append]
      cases first : base.exponents.find? (· < 1) with
      | some low =>
          rw [first] at induction
          have failed : base.evaluate lookup = .error (refusal low) := induction
          change evaluate lookup _ = .error (refusal low)
          rw [evaluate_power, failed, Result.error_bind]
      | none =>
          rw [first] at induction
          rcases induction with ⟨unit, evaluated, symbolicUnit⟩
          by_cases low : exponent < 1
          · have found : [exponent].find? (· < 1) = some exponent := by simp [low]
            rw [found]
            change evaluate lookup _ = .error (refusal exponent)
            rw [evaluate_power, evaluated, Result.ok_bind, if_pos low]
          · have found : [exponent].find? (· < 1) = none := by simp [low]
            rw [found]
            rcases symbolicUnit.exists_power (Int.not_lt.mp low) with
              ⟨raised, powered, symbolicRaised⟩
            refine ⟨raised, ?_, symbolicRaised⟩
            rw [evaluate_power, evaluated, Result.ok_bind, if_neg low]
            exact powered
  | product left right inductionLeft inductionRight =>
      rw [exponents, List.find?_append]
      exact (inductionLeft fun power member =>
        symbolic power (List.mem_append_left _ member)).both (evaluate_product lookup left right)
        (fun _ _ symbolicLeft symbolicRight => symbolicLeft.exists_times symbolicRight)
        (inductionRight fun power member => symbolic power (List.mem_append_right _ member))
  | quotient dividend divisor inductionDividend inductionDivisor =>
      rw [exponents, List.find?_append]
      exact (inductionDividend fun power member =>
        symbolic power (List.mem_append_left _ member)).both
        (evaluate_quotient lookup dividend divisor)
        (fun _ _ symbolicLeft symbolicRight => symbolicLeft.exists_divide symbolicRight)
        (inductionDivisor fun power member => symbolic (power.1, -power.2)
          (List.mem_append_right _ (List.mem_map.mpr ⟨power, member, rfl⟩)))

theorem evaluates_symbolic (symbolic : ∀ symbol, (resolve lookup symbol).IsSymbolic)
    (plan : Plan) : plan.Evaluates lookup (plan.exponents.find? (· < 1)) :=
  evaluates_of_isSymbolic fun power _ => symbolic power.1

end Success

/-! ## The product of powers -/

section Product

variable {G : Type} [DivisionCommMonoid G] {lookup : Lookup StandardUnit} {plan : Plan}
  {unit : StandardUnit}

/-- A plan is read as the product of what its factors are read as. -/
theorem reads_factors (reading : MeasurementUnit.Reading (Dimension Number) Number G)
    (meaning : StandardUnit → G)
    (reads : ∀ factor ∈ plan.factors lookup, reading.Reads factor.1 (meaning factor.1))
    (made : plan.evaluate lookup = .ok unit) :
    reading.Reads unit
      ((plan.factors lookup).map fun factor => meaning factor.1 ^ factor.2).prod := by
  have total := reads_evaluate reading (fun symbol => meaning (resolve lookup symbol))
    (fun power member => reads (resolve lookup power.1, power.2)
      (List.mem_map.mpr ⟨power, member, rfl⟩)) made
  rw [factors, List.map_map]
  exact total

/-- Read additively, a product of powers is a sum of multiples. -/
theorem toAdd_prod_powers (meaning : StandardUnit → String → ℤ)
    (factors : List (StandardUnit × ℤ)) :
    (factors.map fun factor => Multiplicative.ofAdd (meaning factor.1) ^ factor.2).prod.toAdd =
      (factors.map fun factor => factor.2 • meaning factor.1).sum := by
  rw [toAdd_list_sum, List.map_map]
  rfl

theorem isProductOf_of_evaluate (symbolic : ∀ factor ∈ plan.factors lookup, factor.1.IsSymbolic)
    (made : plan.evaluate lookup = .ok unit) : unit.IsProductOf (plan.factors lookup) := by
  have hasDimension : unit.dimension.representation.HasExponents (0, _) :=
    reads_factors (MeasurementUnit.dimensionReading Number)
      (fun unit => Multiplicative.ofAdd unit.dimensionExponents)
      (fun factor member => (symbolic factor member).dimension.hasExponents) made
  have hasNames : unit.representation.HasExponents (0, _) :=
    reads_factors (MeasurementUnit.nameReading (Dimension Number))
      (fun unit => Multiplicative.ofAdd unit.nameExponents)
      (fun factor member => (symbolic factor member).representation.hasExponents) made
  rw [toAdd_prod_powers] at hasDimension hasNames
  have symbolicDimensions : ∀ power ∈ (plan.factors lookup).map fun factor =>
      (factor.1.dimension, factor.2), power.1.representation.IsSymbolic := by
    intro power member
    rcases List.mem_map.mp member with ⟨factor, factorMember, rfl⟩
    exact (symbolic factor factorMember).dimension
  rcases Dimension.exists_productOfPowers _ symbolicDimensions with
    ⟨product, multiplied, hasProduct⟩
  rw [List.map_map] at hasProduct
  exact {
    symbolic := ⟨hasDimension.isSymbolic, hasNames.isSymbolic⟩
    dimension := ⟨product, multiplied, hasDimension.equals hasProduct⟩
    dimensionExponents := hasDimension.symbolic
    nameExponents := hasNames.symbolic
    toBase := by
      intro linear value
      have scaled := reads_factors (MeasurementUnit.scaleReading (Dimension Number) Number)
        (fun unit => unit.conversion.scale) (fun factor member => ⟨linear factor member, rfl⟩) made
      rw [MeasurementUnit.toBase, scaled.1.apply_eq, scaled.2] }

end Product

end Plan
end Metrology
