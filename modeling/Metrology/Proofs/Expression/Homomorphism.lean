import Mathlib
import Metrology.Proofs.Expression.Evaluation
import Metrology.Proofs.Expression.Lexemes

/-!
Expressions over a registry of units of names. An expression has a unit unless one of its
exponents is below one, and the unit is the product of what the names stand for.
-/

namespace Metrology

namespace Registry

variable {registry : UnitRegistry}

/-- What is found in a registry is bound in it. -/
theorem mem_bound_of_find? {symbol : String} {unit : StandardUnit}
    (found : registry.find? symbol = some unit) :
    (normalizeSymbol symbol, unit) ∈ registry.bound :=
  Table.mem_of_get? (Option.filter_eq_some_iff.mp found).1

theorem isSymbolic_resolve (symbolic : ∀ entry ∈ registry.bound, entry.2.IsSymbolic)
    (symbol : String) : (Plan.resolve registry.find? symbol).IsSymbolic := by
  rw [Plan.resolve]
  cases found : registry.find? symbol with
  | none => exact MeasurementUnit.isSymbolic_ofSymbol ⟨_, rfl⟩ symbol
  | some unit => exact symbolic _ (mem_bound_of_find? found)

end Registry

namespace Plan

/-- Evaluation is a homomorphism. Over a registry of units of names, a plan fails exactly when
one of its exponents is below one, and this is what is reported unless the exponent has too many
digits to be written, which none has that is read from a text. Otherwise the plan gives the
product of the units that its names stand for, each raised to what the plan raises it to. -/
theorem evaluate_homomorphism (registry : UnitRegistry)
    (symbolic : ∀ entry ∈ registry.bound, entry.2.IsSymbolic) (plan : Plan) :
    ((∃ fault, plan.evaluate registry.find? = .error fault) ↔
        ∃ exponent ∈ plan.exponents, exponent < 1) ∧
      (plan.HasShortExponents →
        ((∃ shown, plan.evaluate registry.find? = .error (.expressionPower shown)) ↔
          ∃ exponent ∈ plan.exponents, exponent < 1)) ∧
      (∀ text, ofText text = .ok plan → plan.HasShortExponents) ∧
      ((∀ exponent ∈ plan.exponents, 1 ≤ exponent) →
        ∃ unit, plan.evaluate registry.find? = .ok unit ∧
          unit.IsProductOf (plan.factors registry.find?)) := by
  have resolved := Registry.isSymbolic_resolve symbolic
  have outcome := evaluates_symbolic resolved plan
  cases first : plan.exponents.find? (· < 1) with
  | some low =>
      rw [first] at outcome
      have written := List.mem_of_find?_eq_some first
      have below : low < 1 := by simpa using List.find?_some first
      have someLow : ∃ exponent ∈ plan.exponents, exponent < 1 := ⟨low, written, below⟩
      refine ⟨iff_of_true ⟨_, outcome⟩ someLow, fun short => iff_of_true ⟨toString low, ?_⟩ someLow,
        fun _ => hasShortExponents_of_ofText, fun positive => ?_⟩
      · rw [Evaluates, refusal_eq, if_pos (short low written)] at outcome
        exact outcome
      · exact absurd below (Int.not_lt.mpr (positive low written))
  | none =>
      rw [first] at outcome
      rcases outcome with ⟨unit, evaluated, _⟩
      have noneLow : ¬∃ exponent ∈ plan.exponents, exponent < 1 := by
        simpa using List.find?_eq_none.mp first
      have succeeds (fault : Fault) : plan.evaluate registry.find? ≠ .error fault := by
        rw [evaluated]
        exact nofun
      have symbolicFactors : ∀ factor ∈ plan.factors registry.find?, factor.1.IsSymbolic := by
        rw [forall_mem_factors]
        exact fun power _ => resolved power.1
      refine ⟨iff_of_false ?_ noneLow, fun _ => iff_of_false ?_ noneLow,
        fun _ => hasShortExponents_of_ofText,
        fun _ => ⟨unit, evaluated, isProductOf_of_evaluate symbolicFactors evaluated⟩⟩
      · exact fun ⟨fault, failed⟩ => succeeds fault failed
      · exact fun ⟨shown, failed⟩ => succeeds (.expressionPower shown) failed

/-- A power, a name that nothing is bound to and a divisor, over two units; and a power below
one. -/
theorem evaluate_homomorphism_minutes :
    let registry : UnitRegistry := ⟨[("m", Catalogue.metre), ("min", Catalogue.minute)], []⟩
    let plan : Plan := .quotient (.product (.power (.name "m") 3) (.name "box"))
      (.product (.power (.name "min") 2) (.name "m"))
    let low : Plan := .product (.name "m") (.power (.name "min") (-2))
    (∀ entry ∈ registry.bound, entry.2.IsSymbolic) ∧
      (∀ exponent ∈ plan.exponents, 1 ≤ exponent) ∧
      (∃ unit, plan.evaluate registry.find? = .ok unit ∧
        unit.IsProductOf (plan.factors registry.find?)) ∧
      ofText "m*min^-2" = .ok low ∧
      ∃ shown, low.evaluate registry.find? = .error (.expressionPower shown) := by
  intro registry plan low
  have symbolic : ∀ entry ∈ registry.bound, entry.2.IsSymbolic := by
    intro entry member
    rcases List.mem_pair.mp member with rfl | rfl
    · exact ⟨⟨_, rfl⟩, _, rfl⟩
    · exact ⟨⟨⟨["T"], []⟩, by decide +kernel⟩, ⟨["min"], []⟩, by decide +kernel⟩
  have positive : ∀ exponent ∈ plan.exponents, 1 ≤ exponent := by decide
  have parsed : ofText "m*min^-2" = .ok low := by decide +kernel
  rcases evaluate_homomorphism registry symbolic low with ⟨_, refused, short, _⟩
  exact ⟨symbolic, positive, (evaluate_homomorphism registry symbolic plan).2.2.2 positive, parsed,
    (refused (short "m*min^-2" parsed)).mpr ⟨-2, List.mem_singleton_self _, by decide⟩⟩

end Plan
end Metrology
