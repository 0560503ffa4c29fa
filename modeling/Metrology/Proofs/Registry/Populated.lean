import Mathlib
import Metrology.Proofs.Expression.EqualUnits
import Metrology.Proofs.Expression.Lexemes
import Metrology.Proofs.Quantity.Conversion

/-!
The registry of the catalogue. Every unit in it is bound to its own symbol, so that a name
and the symbol of what it stands for stand for the same unit. Whatever a name of an
expression stands for, a unit of the catalogue or a unit of its own, is written as one plain
name and converts by scales; only degrees Celsius and Fahrenheit have an offset as well. So
two expressions whose units are equal have units of one dimension and one scale.
-/

namespace Metrology

/-! ## Units that names stand for -/

/-- The symbols of the units of the catalogue whose conversion has an offset. -/
def offsetSymbols : List String := ["°C", "°F"]

/-- Units that are written as one plain name, or not at all, and convert by scales, but for
the offset of the degrees. -/
structure MeasurementUnit.IsRegular (unit : StandardUnit) : Prop where
  dimension : unit.dimension.representation = .ofNames unit.dimension.representation.symbolic
  representation : unit.representation = .ofName unit.symbol
  plain : unit.symbol = "" ∨ IsPlainName unit.symbol
  affine : unit.conversion.IsAffine
  linear : unit.symbol ∉ offsetSymbols → unit.conversion.IsLinear

namespace MeasurementUnit

variable {unit : StandardUnit}

theorem isRegular_iff :
    unit.IsRegular ↔
      unit.dimension.representation = .ofNames unit.dimension.representation.symbolic ∧
        unit.representation = .ofName unit.symbol ∧
        (unit.symbol = "" ∨ IsPlainName unit.symbol) ∧ unit.conversion.IsAffine ∧
        (unit.symbol ∉ offsetSymbols → unit.conversion.IsLinear) := by
  constructor
  · rintro ⟨dimension, representation, plain, affine, linear⟩
    exact ⟨dimension, representation, plain, affine, linear⟩
  · rintro ⟨dimension, representation, plain, affine, linear⟩
    exact ⟨dimension, representation, plain, affine, linear⟩

instance : DecidablePred (IsRegular : StandardUnit → Prop) :=
  fun _ => decidable_of_iff _ isRegular_iff.symm

theorem isRegular_ofSymbol {name : String} (plain : IsPlainName name) :
    (ofSymbol .dimensionless name : StandardUnit).IsRegular := by
  have written : (ofSymbol .dimensionless name : StandardUnit).symbol = name :=
    Ratio.text_ofName plain.nonempty
  have dimensionless : (Dimension.dimensionless : Dimension Number).representation =
      .ofNames Dimension.dimensionless.representation.symbolic := by decide +kernel
  exact {
    dimension := dimensionless
    representation := by rw [written]; rfl
    plain := .inr (by rwa [written])
    affine := Pipeline.isLinear_identity.isAffine
    linear := fun _ => Pipeline.isLinear_identity }

end MeasurementUnit

namespace Catalogue

variable {entry : String × StandardUnit} (member : entry ∈ standard.entries)

include member

/-- Units of the catalogue are written as they are bound. -/
theorem normalizeSymbol_symbol : normalizeSymbol entry.2.symbol = entry.2.symbol := by
  have all : ∀ entry ∈ standard.entries, normalizeSymbol entry.2.symbol = entry.2.symbol := by
    decide +kernel
  exact all entry member

/-- A unit of the catalogue is written as one name or as an expression. -/
theorem isRegular_or_isComposed :
    entry.2.IsRegular ∨ Registry.isComposed entry.2.symbol = true := by
  have all : ∀ entry ∈ standard.entries,
      entry.2.IsRegular ∨ Registry.isComposed entry.2.symbol = true := by decide +kernel
  exact all entry member

/-- Only the unit of pure numbers has no symbol. -/
theorem eq_one_of_symbol_eq_empty (blank : entry.2.symbol = "") : entry.2 = .one := by
  have others : ∀ entry ∈ standard.entries.tail, entry.2.symbol ≠ "" := by decide +kernel
  rcases List.mem_cons.mp member with rfl | later
  · rfl
  · exact absurd blank (others entry later)

end Catalogue

/-! ## What names are bound to -/

namespace Registry

theorem find?_eq_get? (registry : UnitRegistry) (symbol : String) :
    registry.find? symbol = registry.bound.get? (normalizeSymbol symbol) := by
  change (registry.bound.get? (normalizeSymbol symbol)).filter (fun _ => true) = _
  cases registry.bound.get? (normalizeSymbol symbol) <;> rfl

/-- Of the units that are bound to their own symbols, the last one of a symbol is found. -/
theorem get?_foldl_bindOwn (units : List StandardUnit) (key : String) :
    Table.get? (units.foldl (bindOwn id) []) key =
      units.reverse.find? (normalizeSymbol ·.symbol == key) := by
  induction units using List.reverseRecOn with
  | nil => rfl
  | append_singleton units unit induction =>
      rw [List.foldl_append, List.reverse_append]
      change Table.get? (Table.put (normalizeSymbol unit.symbol) unit _) key = _
      rw [Table.get?_put, induction]
      by_cases same : key = normalizeSymbol unit.symbol
      · simp [same]
      · simp [same, Ne.symm same]

section Populated

variable {name : String} {unit : StandardUnit}

theorem symbol_of_get?_foldl_bindOwn {units : List StandardUnit} {key : String}
    (found : Table.get? (units.foldl (bindOwn id) []) key = some unit) :
    key = normalizeSymbol unit.symbol ∧ unit ∈ units := by
  rw [get?_foldl_bindOwn] at found
  have written := List.find?_some found
  exact ⟨(eq_of_beq written).symm, List.mem_reverse.mp (List.mem_of_find?_eq_some found)⟩

/-- What the catalogue has under a name, without the table that is made of it. -/
theorem find?_populated :
    populated.find? = fun name => (Catalogue.standard.entries.map (·.2)).reverse.find?
      (·.symbol == normalizeSymbol name) := by
  funext name
  rw [find?_eq_get?, populated, ofCatalogue, get?_foldl_bindOwn]
  refine List.find?_congr fun unit member => ?_
  rcases List.mem_map.mp (List.mem_reverse.mp member) with ⟨entry, entryMember, rfl⟩
  rw [Catalogue.normalizeSymbol_symbol entryMember]

theorem symbol_of_find?_populated (found : populated.find? name = some unit) :
    normalizeSymbol name = normalizeSymbol unit.symbol ∧
      ∃ entry ∈ Catalogue.standard.entries, entry.2 = unit := by
  simp only [find?_eq_get?, populated, ofCatalogue] at found
  rcases symbol_of_get?_foldl_bindOwn found with ⟨own, member⟩
  exact ⟨own, List.mem_map.mp member⟩

theorem find?_symbol (found : populated.find? name = some unit) :
    populated.find? unit.symbol = some unit := by
  rw [find?, ← (symbol_of_find?_populated found).1]
  exact found

end Populated

/-! ## What names of expressions stand for -/

section Lexed

variable {name : String} (lexed : IsLexed name)

include lexed

/-- A name that nothing is bound to is a plain name and stands for itself. -/
theorem placeholder_of_find?_eq_none (unbound : populated.find? name = none) :
    IsPlainName name ∧ Plan.resolve populated.find? name = .ofSymbol .dimensionless name := by
  have nonempty : name ≠ "" := by
    rintro rfl
    have bound : (populated.find? "").isSome = true := by
      rw [find?_populated]
      decide +kernel
    rw [unbound] at bound
    cases bound
  exact ⟨lexed.isPlainName nonempty, by rw [Plan.resolve, unbound]; rfl⟩

theorem isRegular_resolve : (Plan.resolve populated.find? name).IsRegular := by
  cases found : populated.find? name with
  | none =>
      rcases placeholder_of_find?_eq_none lexed found with ⟨plain, stands⟩
      rw [stands]
      exact MeasurementUnit.isRegular_ofSymbol plain
  | some unit =>
      rcases symbol_of_find?_populated found with ⟨own, entry, member, rfl⟩
      rw [Plan.resolve, found]
      -- A unit that is bound under an expression is out of reach of a single name.
      refine (Catalogue.isRegular_or_isComposed member).resolve_right ?_
      rw [← Catalogue.normalizeSymbol_symbol member, ← own, lexed.isComposed_normalizeSymbol]
      exact Bool.false_ne_true

/-- A name and the symbol of what it stands for stand for the same unit. -/
theorem resolve_symbol :
    Plan.resolve populated.find? (Plan.resolve populated.find? name).symbol =
      Plan.resolve populated.find? name := by
  cases found : populated.find? name with
  | none =>
      rcases placeholder_of_find?_eq_none lexed found with ⟨plain, stands⟩
      have written : (Plan.resolve populated.find? name).symbol = name := by
        rw [stands]
        exact Ratio.text_ofName plain.nonempty
      rw [written]
  | some unit => simp [Plan.resolve, found, find?_symbol found]

theorem resolve_eq_one_of_blank (blank : (Plan.resolve populated.find? name).symbol = "") :
    Plan.resolve populated.find? name = .one := by
  cases found : populated.find? name with
  | none =>
      rcases placeholder_of_find?_eq_none lexed found with ⟨plain, stands⟩
      rw [stands] at blank
      exact absurd ((Ratio.text_ofName plain.nonempty).symm.trans blank) plain.nonempty
  | some unit =>
      rcases symbol_of_find?_populated found with ⟨_, entry, member, rfl⟩
      rw [Plan.resolve, found] at blank ⊢
      exact Catalogue.eq_one_of_symbol_eq_empty member blank

theorem isRegular_of_isLexed : Plan.IsRegular populated.find? name :=
  have regular := isRegular_resolve lexed
  { symbolic := ⟨_, regular.dimension⟩
    representation := regular.representation
    found := resolve_symbol lexed
    blank := resolve_eq_one_of_blank lexed
    plain := regular.plain
    affine := regular.affine }

end Lexed

/-! ## Equal units -/

/-- Expressions in which degrees stand alone, if they are named at all. -/
def IsolatesDegrees (text : String) : Prop :=
  ∀ plan, Plan.ofText text = .ok plan →
    (∃ name, plan = .name name) ∨
      ∀ factor ∈ plan.factors populated.find?, factor.1.symbol ∉ offsetSymbols

theorem IsolatesDegrees.isolatesOffsets {text : String} (isolated : IsolatesDegrees text) {plan : Plan}
    (parsed : Plan.ofText text = .ok plan) : plan.IsolatesOffsets populated.find? := by
  refine (isolated plan parsed).imp_right fun free => ?_
  rw [Plan.forall_mem_factors (·.symbol ∉ offsetSymbols)] at free
  rw [Plan.forall_mem_factors (·.conversion.IsLinear)]
  intro power member
  exact (isRegular_resolve (Plan.isLexed_of_ofText parsed power member)).linear (free power member)

/-- Units of the catalogue's expressions that are equal have one dimension, so that a
quantity in one is left as it is by a conversion into the other. Running the two conversions
gives base values that differ by the same amount for every magnitude, and by none where
degrees stand alone: there the quantity is what the two conversions make of it. -/
theorem equal_units_convert_alike {first second : String} {left right : StandardUnit}
    (parsedFirst : populated.parse first = .ok left)
    (parsedSecond : populated.parse second = .ok right) (same : left.equals right = true) :
    left.dimension.equals right.dimension = true ∧
      (∀ value : ℚ, (⟨value, left⟩ : StandardQuantity ℚ).convert right = .ok ⟨value, left⟩) ∧
      (∃ shift : ℚ, ∀ value : ℚ, ∃ base,
        left.toBase value = .ok base ∧ right.toBase value = .ok (base + shift)) ∧
      (IsolatesDegrees first → IsolatesDegrees second →
        ∀ value : ℚ, ∃ base, left.toBase value = .ok base ∧ right.toBase value = .ok base ∧
          right.fromBase base = .ok value) := by
  rcases Result.bind_eq_ok.mp parsedFirst with ⟨firstPlan, readFirst, madeLeft⟩
  rcases Result.bind_eq_ok.mp parsedSecond with ⟨secondPlan, readSecond, madeRight⟩
  have regularFirst : ∀ power ∈ firstPlan.powers, Plan.IsRegular populated.find? power.1 :=
    fun power member => isRegular_of_isLexed (Plan.isLexed_of_ofText readFirst power member)
  have regularSecond : ∀ power ∈ secondPlan.powers, Plan.IsRegular populated.find? power.1 :=
    fun power member => isRegular_of_isLexed (Plan.isLexed_of_ofText readSecond power member)
  have names := Plan.nameExponents_eq_of_equals regularFirst regularSecond madeLeft madeRight same
  have dimension := Plan.dimension_equals_of_nameExponents_eq
    (Plan.isCanonical_of_isRegular regularFirst) (Plan.isCanonical_of_isRegular regularSecond)
    madeLeft madeRight names
  refine ⟨dimension, fun value => ?_,
    Plan.exists_shift regularFirst regularSecond madeLeft madeRight names, ?_⟩
  · rw [Quantity.convert, Quantity.requireCompatible_of_equals dimension, Result.ok_bind,
      if_pos same]
    rfl
  · intro isolatedFirst isolatedSecond value
    have alike := Plan.toBase_eq regularFirst regularSecond madeLeft madeRight names
      (isolatedFirst.isolatesOffsets readFirst) (isolatedSecond.isolatesOffsets readSecond) value
    -- The way back from the base value is the inverse of the one conversion that both share.
    rcases (Plan.reads_prod_scale regularSecond madeRight).1.exists_realizes with ⟨map, runs⟩
    have forward : right.toBase value = .ok (map value) := (runs value).1
    have backward : right.fromBase (map value) = .ok (map.symm (map value)) := (runs (map value)).2
    rw [Equiv.symm_apply_apply] at backward
    exact ⟨map value, alike.trans forward, forward, backward⟩

/-- A product with a name that nothing is bound to and that cancels, beside a single name. -/
theorem equal_units_convert_alike_kilometres :
    ∃ left right : StandardUnit, populated.parse "box*km/box" = .ok left ∧
      populated.parse "km" = .ok right ∧ left.equals right = true ∧
      IsolatesDegrees "box*km/box" ∧ IsolatesDegrees "km" ∧
      left.dimension.equals right.dimension = true ∧
      ∀ value : ℚ, ∃ base, left.toBase value = .ok base ∧ right.toBase value = .ok base ∧
        right.fromBase base = .ok value := by
  let compared : Result Bool := do
    let left ← populated.parse "box*km/box"
    let right ← populated.parse "km"
    return left.equals right
  have equal : compared = .ok true := by
    simp only [compared, parse, find?_populated]
    decide +kernel
  rcases Result.bind_eq_ok.mp equal with ⟨left, parsedLeft, rest⟩
  rcases Result.bind_eq_ok.mp rest with ⟨right, parsedRight, result⟩
  have same : left.equals right = true := Except.ok.inj result
  have isolatedLeft : IsolatesDegrees "box*km/box" := by
    have read : Plan.ofText "box*km/box" =
        .ok (.quotient (.product (.name "box") (.name "km")) (.name "box")) := by decide +kernel
    intro plan parsed
    cases read.symm.trans parsed
    refine .inr ?_
    rw [find?_populated]
    decide +kernel
  have isolatedRight : IsolatesDegrees "km" := by
    have read : Plan.ofText "km" = .ok (.name "km") := by decide +kernel
    intro plan parsed
    cases read.symm.trans parsed
    exact .inl ⟨"km", rfl⟩
  rcases equal_units_convert_alike parsedLeft parsedRight same with ⟨dimension, _, _, alike⟩
  exact ⟨left, right, parsedLeft, parsedRight, same, isolatedLeft, isolatedRight, dimension,
    alike isolatedLeft isolatedRight⟩

/-- Degrees as one factor of two: the order of the factors counts for the conversion, but
not for the symbol. -/
theorem degrees_convert_apart :
    ∃ left right : StandardUnit, populated.parse "km*°C" = .ok left ∧
      populated.parse "°C*km" = .ok right ∧ left.equals right = true ∧
      left.toBase (0 : ℚ) ≠ right.toBase (0 : ℚ) ∧
      (left.toBase (0 : ℚ) >>= right.fromBase) ≠ .ok 0 := by
  let compared : Result Bool := do
    let left ← populated.parse "km*°C"
    let right ← populated.parse "°C*km"
    return left.equals right && left.toBase (0 : ℚ) != right.toBase (0 : ℚ) &&
      (left.toBase (0 : ℚ) >>= right.fromBase) != .ok 0
  have apart : compared = .ok true := by
    simp only [compared, parse, find?_populated]
    decide +kernel
  rcases Result.bind_eq_ok.mp apart with ⟨left, parsedLeft, rest⟩
  rcases Result.bind_eq_ok.mp rest with ⟨right, parsedRight, result⟩
  have facts := Except.ok.inj result
  simp only [Bool.and_eq_true, bne_iff_ne] at facts
  exact ⟨left, right, parsedLeft, parsedRight, facts.1.1, facts.1.2, facts.2⟩

end Registry
end Metrology
