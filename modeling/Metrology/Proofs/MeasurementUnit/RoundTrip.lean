import Mathlib
import Metrology.Proofs.Expression.Symbols

/-!
Printed units are read back. A unit that is built by products, quotients and powers from
units with words for symbols is written as an expression over these words. Evaluating
the expression gives a unit with the same symbol, the same dimension and the same scale,
in whatever order the unit was built.
-/

namespace Metrology
namespace MeasurementUnit

/-! ## Units built from named units -/

/-- Units that names stand for, and what comes of them by multiplying, dividing and
raising to powers. -/
inductive IsBuiltFrom (lookup : Lookup StandardUnit) (names : Set String) : StandardUnit → Prop
  | named {name : String} (member : name ∈ names) :
      IsBuiltFrom lookup names (Plan.resolve lookup name)
  | times {left right unit : StandardUnit} (builtLeft : IsBuiltFrom lookup names left)
      (builtRight : IsBuiltFrom lookup names right) (made : left.times right = .ok unit) :
      IsBuiltFrom lookup names unit
  | divide {left right unit : StandardUnit} (builtLeft : IsBuiltFrom lookup names left)
      (builtRight : IsBuiltFrom lookup names right) (made : left.divide right = .ok unit) :
      IsBuiltFrom lookup names unit
  | power {base unit : StandardUnit} {exponent : Scalar} (builtBase : IsBuiltFrom lookup names base)
      (made : base.power exponent = .ok unit) : IsBuiltFrom lookup names unit

variable {lookup : Lookup StandardUnit} {names : Set String} {unit base : StandardUnit}

/-- However a unit is built, a plan over the same names evaluates to it. -/
theorem IsBuiltFrom.exists_plan (built : unit.IsBuiltFrom lookup names) :
    ∃ plan : Plan, plan.evaluate lookup = .ok unit ∧ ∀ power ∈ plan.powers, power.1 ∈ names := by
  induction built with
  | @named name member =>
      refine ⟨.name name, Plan.evaluate_name lookup name, ?_⟩
      simpa [Plan.powers] using member
  | times _ _ made inductionLeft inductionRight =>
      rcases inductionLeft with ⟨left, evaluatedLeft, withinLeft⟩
      rcases inductionRight with ⟨right, evaluatedRight, withinRight⟩
      refine ⟨.product left right, ?_, ?_⟩
      · rw [Plan.evaluate_product, evaluatedLeft, Result.ok_bind, evaluatedRight, Result.ok_bind]
        exact made
      · intro power member
        exact (List.mem_append.mp member).elim (withinLeft power) (withinRight power)
  | divide _ _ made inductionLeft inductionRight =>
      rcases inductionLeft with ⟨left, evaluatedLeft, withinLeft⟩
      rcases inductionRight with ⟨right, evaluatedRight, withinRight⟩
      refine ⟨.quotient left right, ?_, ?_⟩
      · rw [Plan.evaluate_quotient, evaluatedLeft, Result.ok_bind, evaluatedRight, Result.ok_bind]
        exact made
      · intro power member
        rcases List.mem_append.mp member with inLeft | inRight
        · exact withinLeft power inLeft
        · rcases List.mem_map.mp inRight with ⟨held, heldMember, rfl⟩
          exact withinRight held heldMember
  | power _ made induction =>
      rcases induction with ⟨plan, evaluated, within⟩
      rcases exists_exponent_of_power made with ⟨exponent, rfl, positive⟩
      refine ⟨.power plan exponent, ?_, ?_⟩
      · rw [Plan.evaluate_power, evaluated, Result.ok_bind, if_neg (by omega)]
        exact made
      · intro power member
        rcases List.mem_map.mp member with ⟨held, heldMember, rfl⟩
        exact within held heldMember

/-! ## Words as symbols -/

/-- Words that stand for a unit written as the word, with a dimension made of names. -/
structure IsReadable (lookup : Lookup StandardUnit) (name : String) : Prop where
  word : IsWord name
  representation : (Plan.resolve lookup name).representation = Ratio.ofName name
  dimension : (Plan.resolve lookup name).dimension.representation.IsSymbolic

theorem IsReadable.nonempty {name : String} (readable : IsReadable lookup name) : name ≠ "" :=
  readable.word.isPlainName.nonempty

theorem IsReadable.symbol_eq {name : String} (readable : IsReadable lookup name) :
    (Plan.resolve lookup name).symbol = name := by
  rw [MeasurementUnit.symbol, readable.representation, Ratio.text_ofName readable.nonempty]

theorem IsReadable.isCanonical {name : String} (readable : IsReadable lookup name) :
    Plan.IsCanonical lookup name where
  symbolic := readable.dimension
  representation := by rw [readable.symbol_eq, readable.representation]
  found := by rw [readable.symbol_eq]
  blank := fun blank => absurd (readable.symbol_eq.symm.trans blank) readable.nonempty

/-! ## Reading a symbol back -/

/-- Units whose exponents are not too long to be read. -/
def HasShortExponents (unit : StandardUnit) : Prop :=
  ∀ name ∈ unit.representation.symbolic.above ++ unit.representation.symbolic.below,
    (decimalDigits (unit.nameExponents name).natAbs).length ≤ digitLimit

section Reading

variable (readable : ∀ name ∈ names, IsReadable lookup name)

include readable

section Planned

variable {plan : Plan} (within : ∀ power ∈ plan.powers, power.1 ∈ names)

include within

theorem isCanonical_of_within : ∀ power ∈ plan.powers, Plan.IsCanonical lookup power.1 :=
  fun power member => (readable power.1 (within power member)).isCanonical

theorem symbolPowers_of_within : plan.symbolPowers lookup = plan.powers := by
  rw [Plan.symbolPowers, List.map_congr_left (g := id), List.map_id]
  intro power member
  exact congrArg (·, power.2) (readable power.1 (within power member)).symbol_eq

/-- A unit of words is written with the net powers of the words. -/
theorem nameExponents_of_within (made : plan.evaluate lookup = .ok unit) :
    unit.nameExponents = ⇑(netPowers plan.powers) := by
  rw [Plan.nameExponents_eq_netPowers (isCanonical_of_within readable within) made,
    symbolPowers_of_within readable within]

end Planned

section Printed

variable (symbolic : unit.representation.IsSymbolic)
  (inNames : ∀ name, unit.nameExponents name ≠ 0 → name ∈ names)

include symbolic inNames

theorem isWritable_symbolic (short : unit.HasShortExponents) :
    unit.representation.symbolic.IsWritable := by
  constructor
  · intro name member
    rcases symbolic.count_above member with ⟨nonzero, count⟩
    refine ⟨(readable name (inNames name nonzero)).word, ?_⟩
    rw [count]
    exact short name (List.mem_append_left _ member)
  · intro name member
    rcases symbolic.count_below member with ⟨nonzero, count⟩
    refine ⟨(readable name (inNames name nonzero)).word, ?_⟩
    rw [count]
    exact short name (List.mem_append_right _ member)

/-- What is printed of a unit evaluates to a unit with the same net powers. -/
theorem exists_plan_ofText_symbol (short : unit.HasShortExponents)
    (above : unit.representation.symbolic.above ≠ []) :
    ∃ (printed : Plan) (read : StandardUnit), Plan.ofText unit.symbol = .ok printed ∧
      printed.evaluate lookup = .ok read ∧ (∀ power ∈ printed.powers, power.1 ∈ names) ∧
      read.nameExponents = unit.nameExponents := by
  rcases exists_renders (isWritable_symbolic readable symbolic inNames short) above with
    ⟨tree, renders⟩
  have within : ∀ power ∈ Plan.powers tree.meaning, power.1 ∈ names := by
    intro power member
    rcases renders.within power member with isAbove | isBelow
    · exact inNames _ (symbolic.count_above isAbove).1
    · exact inNames _ (symbolic.count_below isBelow).1
  have canonical := isCanonical_of_within readable within
  have outcome := Plan.evaluates_of_isSymbolic fun power member =>
    (canonical power member).isSymbolic
  have noneLow : (Plan.exponents tree.meaning).find? (· < 1) = none := by
    simpa using renders.positive
  rw [noneLow] at outcome
  rcases outcome with ⟨read, evaluated, _⟩
  have text : unit.symbol.toList = tree.text := by
    rw [MeasurementUnit.symbol, symbolic.text_eq, renders.text]
  refine ⟨tree.meaning, read, tree.ofText_eq renders.printable text, evaluated, within, ?_⟩
  rw [nameExponents_of_within readable within evaluated, renders.netPowers]
  rfl

end Printed

/-- Units of two plans with the same net powers are equal, of one dimension, and convert
alike where the names stand for units that only scale. -/
theorem agrees_of_nameExponents_eq {plan printed : Plan} {read : StandardUnit}
    (within : ∀ power ∈ plan.powers, power.1 ∈ names)
    (withinPrinted : ∀ power ∈ printed.powers, power.1 ∈ names)
    (made : plan.evaluate lookup = .ok unit) (evaluated : printed.evaluate lookup = .ok read)
    (same : read.nameExponents = unit.nameExponents) :
    read.equals unit = true ∧ read.dimension.equals unit.dimension = true ∧
      ((∀ name ∈ names, (Plan.resolve lookup name).conversion.IsLinear) →
        ∀ value : ℚ, ∃ base, unit.toBase value = .ok base ∧ read.toBase value = .ok base) := by
  have canonical := isCanonical_of_within readable within
  have canonicalRead := isCanonical_of_within readable withinPrinted
  have product := Plan.isProductOf_of_evaluate (Plan.isSymbolic_of_mem_factors canonical) made
  have productRead :=
    Plan.isProductOf_of_evaluate (Plan.isSymbolic_of_mem_factors canonicalRead) evaluated
  refine ⟨?_, ?_, ?_⟩
  · have hasRead : read.representation.HasExponents (0, read.nameExponents) :=
      productRead.symbolic.representation.hasExponents
    rw [same] at hasRead
    exact hasRead.equals product.symbolic.representation.hasExponents
  · exact Plan.dimension_equals_of_nameExponents_eq canonicalRead canonical evaluated made same
  · intro linear value
    have linearFactors {plan : Plan} (within : ∀ power ∈ plan.powers, power.1 ∈ names) :
        ∀ factor ∈ plan.factors lookup, factor.1.conversion.IsLinear :=
      (Plan.forall_mem_factors (·.conversion.IsLinear)).mpr fun power member =>
        linear power.1 (within power member)
    exact Plan.exists_base_of_nameExponents_eq canonical canonicalRead made evaluated same.symm
      (linearFactors within) (linearFactors withinPrinted) value

/-- A unit that is built from words can be printed as a plan over the same words. -/
theorem IsBuiltFrom.exists_plan_ofText (built : unit.IsBuiltFrom lookup names)
    (above : unit.representation.symbolic.above ≠ []) (short : unit.HasShortExponents) :
    ∃ (printed : Plan) (read : StandardUnit), Plan.ofText unit.symbol = .ok printed ∧
      printed.evaluate lookup = .ok read ∧ (∀ power ∈ printed.powers, power.1 ∈ names) ∧
      read.nameExponents = unit.nameExponents := by
  rcases built.exists_plan with ⟨plan, evaluated, within⟩
  have canonical := isCanonical_of_within readable within
  have product := Plan.isProductOf_of_evaluate (Plan.isSymbolic_of_mem_factors canonical) evaluated
  refine exists_plan_ofText_symbol readable product.symbolic.representation ?_ short above
  intro name nonzero
  rw [nameExponents_of_within readable within evaluated] at nonzero
  rcases exists_mem_of_netPowers_ne_zero nonzero with ⟨power, member, rfl⟩
  exact within power member

end Reading

/-- Printing a unit and reading it back gives the same unit. -/
theorem parse_symbol_agrees (registry : UnitRegistry) (names : Set String)
    (readable : ∀ name ∈ names, IsReadable registry.find? name) (unit : StandardUnit)
    (built : unit.IsBuiltFrom registry.find? names)
    (above : unit.representation.symbolic.above ≠ []) (short : unit.HasShortExponents) :
    ∃ read, registry.parse unit.symbol = .ok read ∧ read.equals unit = true ∧
      read.dimension.equals unit.dimension = true ∧
      ((∀ name ∈ names, (Plan.resolve registry.find? name).conversion.IsLinear) →
        ∀ value : ℚ, ∃ base, unit.toBase value = .ok base ∧ read.toBase value = .ok base) := by
  rcases built.exists_plan with ⟨plan, evaluated, within⟩
  rcases built.exists_plan_ofText readable above short with
    ⟨printed, read, parsed, evaluatedRead, withinRead, same⟩
  refine ⟨read, ?_, agrees_of_nameExponents_eq readable within withinRead evaluated evaluatedRead
    same⟩
  rw [Registry.parse, evaluateText, parsed, Result.ok_bind, evaluatedRead]

/-- A power, a name that nothing is bound to, a divisor and a name that cancels in part. -/
theorem parse_symbol_agrees_angstrom :
    let registry : UnitRegistry := ⟨[("m", Catalogue.metre), ("min", Catalogue.minute)], []⟩
    let names : Set String := {"m", "min", "Å"}
    (∀ name ∈ names, IsReadable registry.find? name) ∧
      (∀ name ∈ names, (Plan.resolve registry.find? name).conversion.IsLinear) ∧
      ∃ unit : StandardUnit, unit.symbol = "m^2*Å/min^2" ∧
        unit.IsBuiltFrom registry.find? names ∧ unit.representation.symbolic.above ≠ [] ∧
        unit.HasShortExponents ∧
        ∃ read, registry.parse unit.symbol = .ok read ∧ read.equals unit = true ∧
          read.dimension.equals unit.dimension = true ∧
          ∀ value : ℚ, ∃ base, unit.toBase value = .ok base ∧ read.toBase value = .ok base := by
  intro registry names
  have readable : ∀ name ∈ names, IsReadable registry.find? name := by
    rintro name (rfl | rfl | rfl)
    · exact ⟨by decide +kernel, by decide +kernel, ⟨["L"], []⟩, by decide +kernel⟩
    · exact ⟨by decide +kernel, by decide +kernel, ⟨["T"], []⟩, by decide +kernel⟩
    · exact ⟨by decide +kernel, by decide +kernel, ⟨[], []⟩, by decide +kernel⟩
  have linear : ∀ name ∈ names, (Plan.resolve registry.find? name).conversion.IsLinear := by
    rintro name (rfl | rfl | rfl) <;> decide +kernel
  let steps : Result StandardUnit := do
    let cubed ← (Plan.resolve registry.find? "m").power (.number (.int 3))
    let above ← (Plan.resolve registry.find? "Å").times cubed
    let squared ← (Plan.resolve registry.find? "min").power (.number (.int 2))
    let below ← squared.times (Plan.resolve registry.find? "m")
    above.divide below
  have written : (steps.map fun unit => unit.representation) =
      .ok (.ofNames ⟨["Å", "m", "m"], ["min", "min"]⟩) := by decide +kernel
  cases made : steps with
  | error fault =>
      rw [made] at written
      cases written
  | ok unit =>
      rw [made] at written
      have representation : unit.representation = .ofNames ⟨["Å", "m", "m"], ["min", "min"]⟩ :=
        Except.ok.inj written
      rcases Result.bind_eq_ok.mp made with ⟨cubed, madeCubed, made⟩
      rcases Result.bind_eq_ok.mp made with ⟨above, madeAbove, made⟩
      rcases Result.bind_eq_ok.mp made with ⟨squared, madeSquared, made⟩
      rcases Result.bind_eq_ok.mp made with ⟨below, madeBelow, made⟩
      have metre : (Plan.resolve registry.find? "m").IsBuiltFrom registry.find? names :=
        .named (by simp [names])
      have angstrom : (Plan.resolve registry.find? "Å").IsBuiltFrom registry.find? names :=
        .named (by simp [names])
      have minute : (Plan.resolve registry.find? "min").IsBuiltFrom registry.find? names :=
        .named (by simp [names])
      have built : unit.IsBuiltFrom registry.find? names :=
        .divide (.times angstrom (.power metre madeCubed) madeAbove)
          (.times (.power minute madeSquared) metre madeBelow) made
      have nonempty : unit.representation.symbolic.above ≠ [] := by
        rw [representation]
        decide +kernel
      have short : unit.HasShortExponents := by
        rw [HasShortExponents, nameExponents, representation]
        decide +kernel
      have symbol : unit.symbol = "m^2*Å/min^2" := by
        rw [MeasurementUnit.symbol, representation]
        decide +kernel
      rcases parse_symbol_agrees registry names readable unit built nonempty short with
        ⟨read, parsed, equal, dimension, converts⟩
      exact ⟨readable, linear, unit, symbol, built, nonempty, short, read, parsed, equal, dimension,
        converts linear⟩

end MeasurementUnit
end Metrology
