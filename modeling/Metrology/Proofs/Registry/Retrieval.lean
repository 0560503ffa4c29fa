import Mathlib
import Metrology.Proofs.MeasurementUnit.RoundTrip
import Metrology.Proofs.Registry.History

/-!
Getting what is bound. A symbol without operators gets what is bound to it. A symbol with
an operator is read as an expression and never looked up as a whole; what comes of it is
what is bound to it as long as the expression says what that unit is.
-/

namespace Metrology

open MeasurementUnit

/-- Texts that are expressions for a unit: the names in them, from a given set, have the
net powers that the unit is written with. -/
def Denotes (names : Set String) (text : String) (unit : StandardUnit) : Prop :=
  ∃ plan, Plan.ofText text = .ok plan ∧ (∀ power ∈ plan.powers, power.1 ∈ names) ∧
    (∀ exponent ∈ plan.exponents, 1 ≤ exponent) ∧ ⇑(netPowers plan.powers) = unit.nameExponents

section Denoting

variable {lookup : Lookup StandardUnit} {names : Set String} {unit : StandardUnit} {text : String}
  (readable : ∀ name ∈ names, IsReadable lookup name)

include readable

/-- An expression for a unit evaluates to a unit that agrees with it. -/
theorem Denotes.exists_read (denotes : Denotes names text unit)
    (built : unit.IsBuiltFrom lookup names) :
    ∃ read, evaluateText lookup text = .ok read ∧ read.equals unit = true ∧
      read.dimension.equals unit.dimension = true ∧
      ((∀ name ∈ names, (Plan.resolve lookup name).conversion.IsLinear) →
        ∀ value : ℚ, ∃ base, unit.toBase value = .ok base ∧ read.toBase value = .ok base) := by
  rcases denotes with ⟨printed, parsed, withinPrinted, positive, same⟩
  rcases built.exists_plan with ⟨plan, made, within⟩
  have outcome := Plan.evaluates_of_isSymbolic fun power member =>
    (isCanonical_of_within readable withinPrinted power member).isSymbolic
  have noneLow : printed.exponents.find? (· < 1) = none := by simpa using positive
  rw [noneLow] at outcome
  rcases outcome with ⟨read, evaluated, _⟩
  refine ⟨read, by rw [evaluateText, parsed, Result.ok_bind, evaluated],
    agrees_of_nameExponents_eq readable within withinPrinted made evaluated ?_⟩
  rw [nameExponents_of_within readable withinPrinted evaluated, same]

/-- The symbol of a unit that is built from words is an expression for it, unless nothing
stands above its fraction bar. -/
theorem denotes_symbol (built : unit.IsBuiltFrom lookup names)
    (above : unit.representation.symbolic.above ≠ []) (short : unit.HasShortExponents) :
    Denotes names unit.symbol unit := by
  rcases built.exists_plan_ofText readable above short with
    ⟨printed, read, parsed, evaluated, within, same⟩
  have outcome := Plan.evaluates_of_isSymbolic fun power member =>
    (isCanonical_of_within readable within power member).isSymbolic
  refine ⟨printed, parsed, within, ?_, ?_⟩
  · cases low : printed.exponents.find? (· < 1) with
    | none => simpa using low
    | some exponent =>
        rw [low] at outcome
        have failed : printed.evaluate lookup = .error (Plan.refusal exponent) := outcome
        cases evaluated.symm.trans failed
  · rw [← same, nameExponents_of_within readable within evaluated]

end Denoting

namespace Registry

variable {registry : UnitRegistry} {symbol : String}

theorem get_of_find? {unit : StandardUnit} (found : registry.find? symbol = some unit)
    (plain : isComposed symbol = false) : registry.get symbol = .ok unit := by
  have looked : registry.lookup (Symbol.ofText symbol) = .ok (some unit) := by
    rw [← found]
    rfl
  rw [get, plain, if_neg Bool.false_ne_true, require, looked]
  rfl

/-- A symbol that is bound gets what is bound to it, unless it has an operator. Then it is
evaluated, whatever is bound to it; an expression for the unit that is bound gets a unit
that agrees with that one, and the symbol of a unit with a name above its fraction bar is
such an expression. -/
theorem get_of_contains (registry : UnitRegistry) (symbol : String)
    (bound : registry.contains symbol = true) :
    ∃ unit, registry.find? symbol = some unit ∧
      (isComposed symbol = false → registry.get symbol = .ok unit) ∧
      (isComposed symbol = true → registry.get symbol = registry.parse symbol) ∧
      ∀ names, (∀ name ∈ names, IsReadable registry.find? name) →
        unit.IsBuiltFrom registry.find? names →
          (Denotes names symbol unit →
            ∃ read, registry.get symbol = .ok read ∧ read.equals unit = true ∧
              read.dimension.equals unit.dimension = true ∧
              ((∀ name ∈ names, (Plan.resolve registry.find? name).conversion.IsLinear) →
                ∀ value : ℚ, ∃ base, unit.toBase value = .ok base ∧
                  read.toBase value = .ok base)) ∧
          (unit.representation.symbolic.above ≠ [] → unit.HasShortExponents →
            Denotes names unit.symbol unit) := by
  rcases Option.isSome_iff_exists.mp bound with ⟨unit, found⟩
  have parsed (composed : isComposed symbol = true) :
      registry.get symbol = registry.parse symbol := if_pos composed
  refine ⟨unit, found, get_of_find? found, parsed, fun names readable built => ⟨?_, ?_⟩⟩
  · intro denotes
    cases composed : isComposed symbol with
    | true =>
        rw [parsed composed]
        exact denotes.exists_read readable built
    | false =>
        rcases built.exists_plan with ⟨plan, made, within⟩
        exact ⟨unit, get_of_find? found composed,
          agrees_of_nameExponents_eq readable within within made made rfl⟩
  · exact denotes_symbol readable built

/-- A quotient that is registered beside the units that it is made of. -/
theorem get_of_contains_speed :
    let registry := (starting false).after
      [.register Catalogue.metre, .register Catalogue.second,
        .register Catalogue.metresPerSecond]
    registry.contains "m/s" = true ∧
      ∃ unit read, registry.find? "m/s" = some unit ∧ registry.get "m/s" = .ok read ∧
        read.equals unit = true ∧ read.dimension.equals unit.dimension = true ∧
        ∀ value : ℚ, ∃ base, unit.toBase value = .ok base ∧ read.toBase value = .ok base := by
  intro registry
  let names : Set String := {"m", "s"}
  have bound : registry.contains "m/s" = true := by decide +kernel
  have readable : ∀ name ∈ names, IsReadable registry.find? name := by
    rintro name (rfl | rfl)
    · exact ⟨by decide +kernel, by decide +kernel, ⟨["L"], []⟩, by decide +kernel⟩
    · exact ⟨by decide +kernel, by decide +kernel, ⟨["T"], []⟩, by decide +kernel⟩
  have linear : ∀ name ∈ names, (Plan.resolve registry.find? name).conversion.IsLinear := by
    rintro name (rfl | rfl) <;> decide +kernel
  have made : (Plan.resolve registry.find? "m").divide (Plan.resolve registry.find? "s") =
      .ok Catalogue.metresPerSecond := by decide +kernel
  have built : Catalogue.metresPerSecond.IsBuiltFrom registry.find? names :=
    .divide (.named (by simp [names])) (.named (by simp [names])) made
  have symbol : Catalogue.metresPerSecond.symbol = "m/s" := by decide +kernel
  have above : Catalogue.metresPerSecond.representation.symbolic.above ≠ [] := by decide +kernel
  have short : Catalogue.metresPerSecond.HasShortExponents := by
    have written : Catalogue.metresPerSecond.representation = .ofNames ⟨["m"], ["s"]⟩ := by
      decide +kernel
    rw [HasShortExponents, nameExponents, written]
    decide +kernel
  rcases get_of_contains registry "m/s" bound with ⟨unit, found, _, _, agree⟩
  have same : registry.find? "m/s" = some Catalogue.metresPerSecond := by decide +kernel
  have held : unit = Catalogue.metresPerSecond := Option.some.inj (found.symm.trans same)
  rw [held] at found agree
  rcases agree names readable built with ⟨evaluates, ownSymbol⟩
  have denotes := ownSymbol above short
  rw [symbol] at denotes
  rcases evaluates denotes with ⟨read, got, equal, dimension, converts⟩
  exact ⟨bound, _, read, found, got, equal, dimension, converts linear⟩

/-- A reciprocal is bound to a symbol that cannot be read. White space that is none to the
reader is left out of the symbol that is looked up. And a product with degrees is printed
with its factors in another order than it converts by. -/
theorem get_departs_from_lookup :
    (∃ reciprocal : StandardUnit, MeasurementUnit.one.divide Catalogue.second = .ok reciprocal ∧
      let registry := (starting false).after [.register reciprocal]
      registry.find? "1/s" = some reciprocal ∧ registry.get "1/s" = .error (.malformed 0)) ∧
    ((starting true).contains "\u2003m/s" = true ∧
      (starting true).get "\u2003m/s" = .error (.badToken "\u2003" 0)) ∧
    ∃ product read : StandardUnit, Catalogue.celsius.times Catalogue.kilometre = .ok product ∧
      let registry := (starting false).after
        [.register Catalogue.kilometre, .register Catalogue.celsius, .register product]
      registry.find? "km*°C" = some product ∧ registry.get "km*°C" = .ok read ∧
        product.toBase (0 : ℚ) ≠ read.toBase (0 : ℚ) := by
  have bound : (starting true).contains "\u2003m/s" = true := by
    change (populated.find? "\u2003m/s").isSome = true
    rw [find?_populated]
    decide +kernel
  refine ⟨?_, ⟨bound, by decide +kernel⟩, ?_⟩
  · let steps : Result Bool := do
      let reciprocal ← MeasurementUnit.one.divide Catalogue.second
      let registry := (starting false).after [.register reciprocal]
      return decide (registry.find? "1/s" = some reciprocal ∧
        registry.get "1/s" = .error (.malformed 0))
    have outcome : steps = .ok true := by decide +kernel
    rcases Result.bind_eq_ok.mp outcome with ⟨reciprocal, made, result⟩
    exact ⟨reciprocal, made, of_decide_eq_true (Except.ok.inj result)⟩
  · let steps : Result Bool := do
      let product ← Catalogue.celsius.times Catalogue.kilometre
      let registry := (starting false).after
        [.register Catalogue.kilometre, .register Catalogue.celsius, .register product]
      let read ← registry.get "km*°C"
      return decide (registry.find? "km*°C" = some product ∧
        product.toBase (0 : ℚ) ≠ read.toBase (0 : ℚ))
    have outcome : steps = .ok true := by decide +kernel
    rcases Result.bind_eq_ok.mp outcome with ⟨product, made, rest⟩
    rcases Result.bind_eq_ok.mp rest with ⟨read, got, result⟩
    rcases of_decide_eq_true (Except.ok.inj result) with ⟨found, apart⟩
    exact ⟨product, read, made, found, got, apart⟩

end Registry
end Metrology
