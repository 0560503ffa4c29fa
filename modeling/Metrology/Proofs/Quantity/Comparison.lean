import Mathlib
import Metrology.Proofs.Quantity.Conversion
import Metrology.Proofs.Quantity.Readings

/-!
What comparisons of quantities mean, read exactly. Every comparison is made in the unit
of the left operand. Where units convert by offsets and by positive scales, that is the
comparison of the base values, so that the operators have the laws of equality and of a
linear order, across any units of one dimension.
-/

namespace Metrology

/-! ## Comparing numbers -/

namespace Comparison

/-- The relation that a comparison asks for. -/
def Relates : Comparison → ℚ → ℚ → Prop
  | less, left, right => left < right
  | atMost, left, right => left ≤ right
  | greater, left, right => left > right
  | atLeast, left, right => left ≥ right

instance (comparison : Comparison) (left right : ℚ) : Decidable (comparison.Relates left right) :=
  match comparison with
  | less => inferInstanceAs (Decidable (left < right))
  | atMost => inferInstanceAs (Decidable (left ≤ right))
  | greater => inferInstanceAs (Decidable (left > right))
  | atLeast => inferInstanceAs (Decidable (left ≥ right))

theorem holds_eq_decide_relates (comparison : Comparison) (left right : ℚ) :
    comparison.holds (compareOfLessAndEq left right) = decide (comparison.Relates left right) := by
  rw [compareOfLessAndEq]
  rcases lt_trichotomy left right with below | rfl | above
  · cases comparison <;> simp [holds, Relates, below, below.le, below.not_ge, below.not_gt]
  · cases comparison <;> simp [holds, Relates]
  · cases comparison <;>
      simp [holds, Relates, above, above.le, above.not_ge, above.not_gt, above.ne']

theorem relates_apply_iff {map : ℚ → ℚ} (increasing : StrictMono map) (comparison : Comparison)
    (left right : ℚ) :
    comparison.Relates (map left) (map right) ↔ comparison.Relates left right := by
  cases comparison with
  | less => exact increasing.lt_iff_lt
  | atMost => exact increasing.le_iff_le
  | greater => exact increasing.lt_iff_lt
  | atLeast => exact increasing.le_iff_le

end Comparison

/-! ## Comparable units -/

/-- Units whose magnitudes grow with the base value, and that convert alike where they
are written alike. -/
structure Comparable (units : List StandardUnit) : Prop where
  increasing : ∀ unit ∈ units, unit.conversion.IsIncreasing
  sameSymbol : ∀ left ∈ units, ∀ right ∈ units,
    left.dimension.equals right.dimension = true → left.equals right = true →
      ∀ value : ℚ, left.toBase value = right.toBase value

/-- Units under symbols that are all different need no further consistency. -/
theorem comparable_of_nodup {units : List StandardUnit}
    (increasing : ∀ unit ∈ units, unit.conversion.IsIncreasing)
    (different : (units.map MeasurementUnit.symbol).Nodup) : Comparable units := by
  refine ⟨increasing, fun left leftMember right rightMember _ same value => ?_⟩
  rw [eq_of_equals_of_nodup different leftMember rightMember same]

namespace Quantity

/-! ## One comparison -/

/-- Two quantities compare as two numbers do. -/
structure ComparesAs (left right : StandardQuantity ℚ) (x y : ℚ) : Prop where
  equal : left.same right = .ok (decide (x = y))
  ordered : ∀ comparison, left.compares comparison right = .ok (decide (comparison.Relates x y))

namespace ComparesAs

variable {left right : StandardQuantity ℚ} {x y : ℚ} {comparison : Comparison}
  (compared : ComparesAs left right x y)

include compared

theorem compares_eq_true_iff :
    left.compares comparison right = .ok true ↔ comparison.Relates x y := by
  rw [compared.ordered, Except.ok.injEq, decide_eq_true_eq]

theorem compares_eq_false_iff :
    left.compares comparison right = .ok false ↔ ¬ comparison.Relates x y := by
  rw [compared.ordered, Except.ok.injEq, decide_eq_false_iff_not]

end ComparesAs

theorem same_of_not_equals {α : Type} [Arithmetic α] {left right : StandardQuantity α}
    (different : left.unit.dimension.equals right.unit.dimension = false) :
    left.same right = .ok false := by
  change (if left.unit.dimension.equals right.unit.dimension = true then left.equals right
    else pure false : Result Bool) = _
  rw [different]
  rfl

theorem compares_of_not_equals {α : Type} [Arithmetic α] {left right : StandardQuantity α}
    (different : left.unit.dimension.equals right.unit.dimension = false)
    (comparison : Comparison) :
    left.compares comparison right =
      .error (.incompatible left.unit.symbol right.unit.symbol) := by
  rw [compares, reading, requireCompatible_of_not_equals different, Result.error_bind,
    Result.error_bind]

/-- The shortcut of an equality for equal units is the one that conversion takes. -/
theorem same_eq_bind {α : Type} [Arithmetic α] {left right : StandardQuantity α}
    (compatible : left.unit.dimension.equals right.unit.dimension = true) :
    left.same right = (right.convert left.unit >>=
      fun converted => Arithmetic.equals left.value converted.value) := by
  have opened : left.same right =
      ((if left.unit.equals right.unit then pure right else right.convert left.unit) >>=
        fun other => Arithmetic.equals left.value other.value) := by
    rw [same, equals, equalsBy]
    change (if left.unit.dimension.equals right.unit.dimension = true then
      (if left.unit.dimension.equals right.unit.dimension = true then _ else _)
        else _ : Result Bool) = _
    rw [if_pos compatible, if_pos compatible]
    split <;> rfl
  rw [opened]
  congr 1
  split
  · next same =>
      rw [MeasurementUnit.equals_comm] at same
      rw [convert, requireCompatible_of_equals (Dimension.equals_symm compatible), Result.ok_bind,
        if_pos same]
  · rfl

variable {left right : StandardQuantity ℚ} {converted : StandardQuantity ℚ}

theorem same_of_convert (compatible : left.unit.dimension.equals right.unit.dimension = true)
    (conversion : right.convert left.unit = .ok converted) :
    left.same right = .ok (decide (left.value = converted.value)) := by
  rw [same_eq_bind compatible, conversion]
  rfl

theorem compares_of_convert
    (compatible : left.unit.dimension.equals right.unit.dimension = true)
    (conversion : right.convert left.unit = .ok converted) (comparison : Comparison) :
    left.compares comparison right =
      .ok (decide (comparison.Relates left.value converted.value)) := by
  rw [compares, reading, requireCompatible_of_equals compatible, Result.ok_bind, conversion]
  exact congrArg Except.ok (comparison.holds_eq_decide_relates _ _)

/-- The base value of a quantity; zero for one that has none. -/
def baseValue (quantity : StandardQuantity ℚ) : ℚ := quantity.toBase.toOption.getD 0

variable {units : List StandardUnit} {quantity : StandardQuantity ℚ}

theorem toBase_eq_baseValue (comparable : Comparable units) (member : quantity.unit ∈ units) :
    quantity.toBase = .ok quantity.baseValue := by
  rcases (comparable.increasing _ member).exists_realizes with ⟨map, runs, _⟩
  have base : quantity.toBase = .ok (map quantity.value) := (runs quantity.value).1
  rw [baseValue, base]
  rfl

/-- The comparison is made in the left unit, where the two magnitudes stand as the base
values do, since that unit's conversion is increasing. -/
theorem comparesAs (comparable : Comparable units) (leftMember : left.unit ∈ units)
    (rightMember : right.unit ∈ units)
    (compatible : left.unit.dimension.equals right.unit.dimension = true) :
    ComparesAs left right left.baseValue right.baseValue := by
  rcases (comparable.increasing _ leftMember).exists_realizes with ⟨f, leftRuns, increasing⟩
  rcases (comparable.increasing _ rightMember).exists_realizes with ⟨g, rightRuns, _⟩
  have leftBase : f left.value = left.baseValue := Except.ok.inj
    ((leftRuns left.value).1.symm.trans (toBase_eq_baseValue comparable leftMember))
  have rightBase : g right.value = right.baseValue := Except.ok.inj
    ((rightRuns right.value).1.symm.trans (toBase_eq_baseValue comparable rightMember))
  have consistent (same : right.unit.equals left.unit = true) : g = f :=
    rightRuns.eq_of_apply_eq leftRuns (comparable.sameSymbol _ rightMember _ leftMember
      (Dimension.equals_symm compatible) same)
  rcases exists_convert rightRuns leftRuns (Dimension.equals_symm compatible) consistent
    right.value with ⟨unit, _, _, _, conversion⟩
  -- Both magnitudes are now in the left unit, and `f` takes them to the base values.
  have image : f (f.symm (g right.value)) = right.baseValue := by
    rw [Equiv.apply_symm_apply, rightBase]
  constructor
  · rw [same_of_convert compatible conversion]
    exact congrArg Except.ok (decide_eq_decide.mpr
      (by rw [← leftBase, ← image, f.injective.eq_iff]))
  · intro comparison
    rw [compares_of_convert compatible conversion]
    exact congrArg Except.ok (decide_eq_decide.mpr
      (by rw [← leftBase, ← image, comparison.relates_apply_iff increasing]))

/-! ## Laws -/

/-- Equality is an equivalence. -/
structure EqualityLaws (a b c : StandardQuantity ℚ) : Prop where
  reflexive : a.same a = .ok true
  symmetric : a.same b = b.same a
  transitive : a.same b = .ok true → b.same c = .ok true → a.same c = .ok true

/-- Being less is a strict weak order, whose converse is being greater, and of two
quantities one is less or they are equal. -/
structure OrderLaws (a b c : StandardQuantity ℚ) : Prop where
  irreflexive : a.compares .less a = .ok false
  transitive : a.compares .less b = .ok true → b.compares .less c = .ok true →
    a.compares .less c = .ok true
  weak : a.compares .less b = .ok false → b.compares .less c = .ok false →
    a.compares .less c = .ok false
  converse : a.compares .less b = b.compares .greater a
  trichotomy : (a.compares .less b, a.same b, a.compares .greater b) ∈
    [(.ok true, .ok false, .ok false), (.ok false, .ok true, .ok false),
      ((.ok false, .ok false, .ok true) : Result Bool × Result Bool × Result Bool)]

section Laws

variable {a b c : StandardQuantity ℚ}

theorem same_eq (comparable : Comparable units) (leftMember : left.unit ∈ units)
    (rightMember : right.unit ∈ units) :
    left.same right = .ok (left.unit.dimension.equals right.unit.dimension &&
      decide (left.baseValue = right.baseValue)) := by
  cases compatible : left.unit.dimension.equals right.unit.dimension with
  | false => exact same_of_not_equals compatible
  | true => exact (comparesAs comparable leftMember rightMember compatible).equal

theorem equalityLaws (comparable : Comparable [a.unit, b.unit, c.unit]) :
    EqualityLaws a b c := by
  have memberA : a.unit ∈ [a.unit, b.unit, c.unit] := by simp
  have memberB : b.unit ∈ [a.unit, b.unit, c.unit] := by simp
  have memberC : c.unit ∈ [a.unit, b.unit, c.unit] := by simp
  constructor
  · rw [same_eq comparable memberA memberA]
    simp [Dimension.equals_refl]
  · rw [same_eq comparable memberA memberB, same_eq comparable memberB memberA,
      Dimension.equals_comm, decide_eq_decide.mpr eq_comm]
  · rw [same_eq comparable memberA memberB, same_eq comparable memberB memberC,
      same_eq comparable memberA memberC]
    simp only [Except.ok.injEq, Bool.and_eq_true, decide_eq_true_eq]
    rintro ⟨before, first⟩ ⟨after, second⟩
    exact ⟨Dimension.equals_trans before after, first.trans second⟩

theorem orderLaws (comparable : Comparable [a.unit, b.unit, c.unit])
    (before : a.unit.dimension.equals b.unit.dimension = true)
    (after : b.unit.dimension.equals c.unit.dimension = true) : OrderLaws a b c := by
  have memberA : a.unit ∈ [a.unit, b.unit, c.unit] := by simp
  have memberB : b.unit ∈ [a.unit, b.unit, c.unit] := by simp
  have memberC : c.unit ∈ [a.unit, b.unit, c.unit] := by simp
  have aa := comparesAs comparable memberA memberA (Dimension.equals_refl _)
  have ab := comparesAs comparable memberA memberB before
  have ba := comparesAs comparable memberB memberA (Dimension.equals_symm before)
  have bc := comparesAs comparable memberB memberC after
  have ac := comparesAs comparable memberA memberC (Dimension.equals_trans before after)
  constructor
  · rw [aa.ordered]
    simp [Comparison.Relates]
  · rw [ab.compares_eq_true_iff, bc.compares_eq_true_iff, ac.compares_eq_true_iff]
    exact lt_trans
  · rw [ab.compares_eq_false_iff, bc.compares_eq_false_iff, ac.compares_eq_false_iff]
    exact fun first second => not_lt_of_ge ((le_of_not_gt second).trans (le_of_not_gt first))
  · rw [ab.ordered, ba.ordered]
    rfl
  · rw [ab.ordered, ab.equal, ab.ordered]
    rcases lt_trichotomy a.baseValue b.baseValue with below | equal | above
    · simp [Comparison.Relates, below, below.ne, below.not_gt]
    · simp [Comparison.Relates, equal]
    · simp [Comparison.Relates, above, above.ne', above.not_gt]

/-- Comparisons are those of the base values, wherever the units are comparable; they
obey the laws of an equality and of an order. Between dimensions nothing is equal, and
nothing can be ordered. -/
theorem comparison_on_base_values :
    (∀ a b : StandardQuantity ℚ, Comparable [a.unit, b.unit] →
      a.unit.dimension.equals b.unit.dimension = true →
        ∃ x y, a.toBase = .ok x ∧ b.toBase = .ok y ∧ ComparesAs a b x y) ∧
    (∀ a b c : StandardQuantity ℚ, Comparable [a.unit, b.unit, c.unit] →
      EqualityLaws a b c ∧
        (a.unit.dimension.equals b.unit.dimension = true →
          b.unit.dimension.equals c.unit.dimension = true → OrderLaws a b c)) ∧
    (∀ (α : Type) [Arithmetic α] (a b : StandardQuantity α),
      a.unit.dimension.equals b.unit.dimension = false →
        a.same b = .ok false ∧ ∀ comparison, a.compares comparison b =
          .error (.incompatible a.unit.symbol b.unit.symbol)) ∧
    ∀ entry ∈ Catalogue.standard.entries, entry.2.conversion.IsIncreasing := by
  refine ⟨?_, ?_, ?_, fun entry member => (Catalogue.isModerate member).increasing⟩
  · intro a b comparable compatible
    have memberA : a.unit ∈ [a.unit, b.unit] := List.mem_cons_self ..
    have memberB : b.unit ∈ [a.unit, b.unit] := by simp
    exact ⟨a.baseValue, b.baseValue, toBase_eq_baseValue comparable memberA,
      toBase_eq_baseValue comparable memberB, comparesAs comparable memberA memberB compatible⟩
  · intro a b c comparable
    exact ⟨equalityLaws comparable, orderLaws comparable⟩
  · intro α arithmetic a b different
    exact ⟨same_of_not_equals different, compares_of_not_equals different⟩

/-- Degrees, whose offsets stand before their scales, and kelvins; but no lengths. -/
theorem comparison_on_base_values_temperatures :
    let boiling : StandardQuantity ℚ := ⟨100, Catalogue.celsius⟩
    let hot : StandardQuantity ℚ := ⟨100, Catalogue.fahrenheit⟩
    let frozen : StandardQuantity ℚ := ⟨273, Catalogue.kelvin⟩
    let length : StandardQuantity ℚ := ⟨100, Catalogue.metre⟩
    Comparable [boiling.unit, hot.unit, frozen.unit] ∧
      (∃ x y, boiling.toBase = .ok x ∧ hot.toBase = .ok y ∧ ComparesAs boiling hot x y) ∧
      EqualityLaws boiling hot frozen ∧ OrderLaws boiling hot frozen ∧
      boiling.same length = .ok false ∧
      boiling.compares .less length =
        .error (.incompatible Catalogue.celsius.symbol Catalogue.metre.symbol) := by
  intro boiling hot frozen length
  have increasing : ∀ unit ∈ [boiling.unit, hot.unit, frozen.unit],
      unit.conversion.IsIncreasing := by decide +kernel
  have comparable : Comparable [boiling.unit, hot.unit, frozen.unit] :=
    comparable_of_nodup increasing (by decide +kernel)
  have pair : Comparable [boiling.unit, hot.unit] := comparable_of_nodup
    (fun unit member => increasing unit (List.mem_of_mem_dropLast member)) (by decide +kernel)
  have first : boiling.unit.dimension.equals hot.unit.dimension = true := by decide +kernel
  have second : hot.unit.dimension.equals frozen.unit.dimension = true := by decide +kernel
  have different : boiling.unit.dimension.equals length.unit.dimension = false := by
    decide +kernel
  have compared := comparison_on_base_values
  rcases compared.2.1 boiling hot frozen comparable with ⟨equality, order⟩
  rcases compared.2.2.1 ℚ boiling length different with ⟨unequal, refused⟩
  exact ⟨comparable, compared.1 boiling hot pair first, equality, order first second, unequal,
    refused .less⟩

end Laws

end Quantity
end Metrology
