import Mathlib
import Metrology.Proofs.MeasurementUnit.Composition
import Metrology.Proofs.Number.IntegerText
import Metrology.Proofs.Ratio.Powers
import Metrology.Worksheet.Powers

/-!
Powers of units. A unit multiplies its power from the left and a ratio from the right; as long
as nothing in the dimension or in the representation differs from itself, that makes no
difference, not even in the order of the terms. A power repeats every term in its place and the
steps of the conversion as a whole, and two powers multiply to the power with the sum of their
exponents. An exponent that is no integer of at least one is refused with its text.
-/

namespace Metrology

theorem Ratio.power_natCast {ν : Type} [Literal ν] (ratio : Ratio ν) (exponent : ℕ) :
    ratio.power exponent = ratio.powerNat exponent := by
  rw [Ratio.power, if_neg (by omega), Int.toNat_natCast]

/-- The dimension with all its terms repeated so many times. -/
def Dimension.repeated (count : ℕ) (dimension : Dimension Number) : Result (Dimension Number) := do
  return ⟨← dimension.representation.repeated count⟩

namespace MeasurementUnit

variable {unit left right raised : StandardUnit}

/-- The unit with all terms of its dimension and of its representation, and all steps of its
conversion, repeated so many times. Once it is the unit itself; otherwise it is derived. -/
def repeated (count : ℕ) (unit : StandardUnit) : Result StandardUnit := do
  let dimension ← unit.dimension.repeated count
  let representation ← unit.representation.repeated count
  return ⟨dimension, representation, ⟨(List.replicate count unit.conversion.steps).flatten⟩,
    unit.isBase && decide (count = 1)⟩

/-- All that a repetition is. -/
theorem repeated_eq_ok {count : ℕ} :
    unit.repeated count = .ok raised ↔
      unit.dimension.representation.repeated count = .ok raised.dimension.representation ∧
        unit.representation.repeated count = .ok raised.representation ∧
        raised.conversion = ⟨(List.replicate count unit.conversion.steps).flatten⟩ ∧
        raised.isBase = (unit.isBase && decide (count = 1)) :=
  composed_eq_ok.trans (and_congr_left' Dimension.ofRepresentation_eq_ok)

theorem exists_repeated_iff {count : ℕ} :
    (∃ raised, unit.repeated count = .ok raised) ↔
      (∃ ratio, unit.dimension.representation.repeated count = .ok ratio) ∧
        ∃ ratio, unit.representation.repeated count = .ok ratio := by
  constructor
  · rintro ⟨raised, made⟩
    rcases repeated_eq_ok.mp made with ⟨dimension, representation, _, _⟩
    exact ⟨⟨_, dimension⟩, _, representation⟩
  · rintro ⟨⟨measured, dimension⟩, written, representation⟩
    exact ⟨⟨⟨measured⟩, written, _, _⟩, repeated_eq_ok.mpr ⟨dimension, representation, rfl, rfl⟩⟩

/-- Units whose dimension and whose representation are settled. -/
structure IsSettled (unit : StandardUnit) : Prop where
  dimension : unit.dimension.representation.IsSettled
  representation : unit.representation.IsSettled

namespace IsSettled

variable (settled : unit.IsSettled)

include settled

theorem repeated_one : unit.repeated 1 = .ok unit := by
  refine repeated_eq_ok.mpr ⟨settled.dimension.repeated_one, settled.representation.repeated_one,
    ?_, ?_⟩
  · simp
  · simp

/-- Two powers multiply to a power. -/
theorem times_repeated {first second : ℕ} (positive : 0 < first) (more : 0 < second)
    (leftMade : unit.repeated first = .ok left) (rightMade : unit.repeated second = .ok right) :
    left.times right = unit.repeated (first + second) := by
  rcases repeated_eq_ok.mp leftMade with ⟨leftDimension, leftWritten, leftSteps, _⟩
  rcases repeated_eq_ok.mp rightMade with ⟨rightDimension, rightWritten, rightSteps, _⟩
  have dimension : Dimensional.times left.dimension right.dimension =
      unit.dimension.repeated (first + second) := by
    rw [Dimension.repeated, ← settled.dimension.times_repeated positive leftDimension rightDimension]
    rfl
  have several : decide (first + second = 1) = false := decide_eq_false (by omega)
  rw [times, dimension, settled.representation.times_repeated positive leftWritten rightWritten,
    leftSteps, rightSteps, repeated, List.replicate_add, List.flatten_append, several,
    Bool.and_false]
  rfl

/-- A power repeats everything, and exists when all lower ones do. -/
theorem powerNat_eq_ok (count : ℕ) :
    unit.powerNat (count + 1) = .ok raised ↔
      (∀ more ≤ count, ∃ lower, unit.repeated (more + 1) = .ok lower) ∧
        unit.repeated (count + 1) = .ok raised := by
  rw [powerNat, Nat.add_sub_cancel]
  have steps : unit.multiplyOn unit count = .ok raised ↔ _ :=
    Result.run_eq_ok (fun _ => rfl) (fun _ _ => rfl) (fun index => unit.repeated (index + 1))
      (fun made => (settled.times_repeated one_pos (Nat.succ_pos _) settled.repeated_one made).trans
        (congrArg unit.repeated (add_comm _ _))) 0
      settled.repeated_one count
  simpa only [zero_add] using steps

theorem power_eq_ok (count : ℕ) :
    unit.power (.number (.int (count + 1 : ℕ))) = .ok raised ↔
      (∀ more ≤ count, ∃ lower, unit.repeated (more + 1) = .ok lower) ∧
        unit.repeated (count + 1) = .ok raised := by
  rw [power_of_one_le (by omega), Int.toNat_natCast, settled.powerNat_eq_ok]

/-- A power exists when those of the dimension and of the representation do, and has these. -/
theorem power_iff_parts (count : ℕ) :
    unit.power (.number (.int (count + 1 : ℕ))) = .ok raised ↔
      unit.dimension.power (count + 1 : ℕ) = .ok raised.dimension ∧
        unit.representation.power (count + 1 : ℕ) = .ok raised.representation ∧
        raised.conversion = ⟨(List.replicate (count + 1) unit.conversion.steps).flatten⟩ ∧
        raised.isBase = (unit.isBase && decide (count + 1 = 1)) := by
  have dimension : unit.dimension.power (count + 1 : ℕ) = .ok raised.dimension ↔ _ :=
    Dimension.ofRepresentation_eq_ok
  rw [dimension, Ratio.power_natCast, Ratio.power_natCast, settled.dimension.powerNat_eq_ok,
    settled.representation.powerNat_eq_ok, settled.power_eq_ok, repeated_eq_ok]
  simp only [exists_repeated_iff]
  constructor
  · rintro ⟨lower, measured, written, rest⟩
    exact ⟨⟨fun more within => (lower more within).1, measured⟩,
      ⟨fun more within => (lower more within).2, written⟩, rest⟩
  · rintro ⟨⟨lowerDimension, measured⟩, ⟨lowerWritten, written⟩, rest⟩
    exact ⟨fun more within => ⟨lowerDimension more within, lowerWritten more within⟩, measured,
      written, rest⟩

/-- A power is the product of any two powers that have its exponent together. -/
theorem exists_times_of_power (first second : ℕ)
    (made : unit.power (.number (.int (first + 1 + (second + 1) : ℕ))) = .ok raised) :
    ∃ left right, unit.power (.number (.int (first + 1 : ℕ))) = .ok left ∧
      unit.power (.number (.int (second + 1 : ℕ))) = .ok right ∧ left.times right = .ok raised := by
  have total : first + 1 + (second + 1) = first + second + 1 + 1 := by omega
  rw [total] at made
  rcases (settled.power_eq_ok _).mp made with ⟨lower, last⟩
  rcases lower first (by omega) with ⟨left, leftMade⟩
  rcases lower second (by omega) with ⟨right, rightMade⟩
  refine ⟨left, right, (settled.power_eq_ok _).mpr ⟨?_, leftMade⟩,
    (settled.power_eq_ok _).mpr ⟨?_, rightMade⟩, ?_⟩
  · exact fun more within => lower more (by omega)
  · exact fun more within => lower more (by omega)
  · rw [settled.times_repeated (Nat.succ_pos _) (Nat.succ_pos _) leftMade rightMade, total]
    exact last

end IsSettled

/-- Units whose dimension and whose representation were written and hold no `nan`. -/
structure IsOrdered (unit : StandardUnit) : Prop where
  dimension : unit.dimension.representation.IsOrdered
  representation : unit.representation.IsOrdered

theorem IsOrdered.isSettled (ordered : unit.IsOrdered) : unit.IsSettled :=
  ⟨ordered.dimension.isSettled, ordered.representation.isSettled⟩

end MeasurementUnit

/-! ## Exponents that are refused -/

/-- Every scalar has a text, except for integers with more digits than are written. -/
theorem Scalar.exists_shown {scalar : Scalar}
    (short : ∀ value : ℤ, scalar = .number (.int value) → value.natAbs < 10 ^ digitLimit) :
    ∃ text, scalar.shown = .ok text := by
  cases scalar with
  | number number =>
      cases number with
      | int value =>
          cases shown : integerText value with
          | ok text => exact ⟨text, shown⟩
          | error fault =>
              exact absurd (integerText_eq_error_iff.mp shown).2 (not_le.mpr (short value rfl))
      | float value => exact ⟨_, rfl⟩
  | flag value => exact ⟨_, rfl⟩
  | text value => exact ⟨_, rfl⟩
  | absent => exact ⟨_, rfl⟩

namespace MeasurementUnit

theorem power_refused {δ ν : Type} [Dimensional δ] [Literal ν] (unit : MeasurementUnit δ ν)
    {exponent : Scalar} (below : ∀ value : ℤ, exponent = .number (.int value) → value < 1)
    {text : String} (shown : exponent.shown = .ok text) :
    unit.power exponent = .error (.unitPower text) := by
  have refused : unit.power exponent = exponent.shown >>= fun text => .error (.unitPower text) := by
    cases exponent with
    | number number =>
        cases number with
        | int value => exact if_pos (below value rfl)
        | float value => rfl
    | flag value => rfl
    | text value => rfl
    | absent => rfl
  rw [refused, shown]
  rfl

/-- There is no text to refuse an integer with too many digits with. -/
theorem power_of_long {δ ν : Type} [Dimensional δ] [Literal ν] (unit : MeasurementUnit δ ν)
    {exponent : ℤ} (below : exponent < 1) (long : 10 ^ digitLimit ≤ exponent.natAbs) :
    unit.power (.number (.int exponent)) = .error .tooManyDigits := by
  rw [power, if_pos below, integerText_of_long long]
  rfl

end MeasurementUnit

theorem Item.unitPower_refused (base : ItemUnit) {exponent : Item}
    (below : ∀ value : ℤ, exponent = .int value → value < 1) {text : String}
    (shown : exponent.shown = .ok text) :
    Item.unitPower base exponent = .error (.unitPower text) := by
  cases exponent with
  | scalar value =>
      exact base.power_refused (fun whole same => below whole (congrArg Item.scalar same)) shown
  | _ =>
      rw [Item.unitPower, shown]
      · rfl
      · intro value same
        cases same

/-! ## All that a power is -/

namespace MeasurementUnit

/-- The power of a unit has exactly the powers of its dimension and of its representation, and
its steps so many times over; it exists when these two do. It is the product of any two powers
that have its exponent together. An exponent that is no integer of at least one is refused, and
the refusal shows it, wherever it has a text; scalars have one except for integers with more
digits than are written. -/
theorem power_agrees_with_parts (unit : StandardUnit) (ordered : unit.IsOrdered) :
    (∀ exponent : ℤ, 1 ≤ exponent → ∀ raised : StandardUnit,
      unit.power (.number (.int exponent)) = .ok raised ↔
        unit.dimension.power exponent = .ok raised.dimension ∧
          unit.representation.power exponent = .ok raised.representation ∧
          raised.conversion =
            ⟨(List.replicate exponent.toNat unit.conversion.steps).flatten⟩ ∧
          raised.isBase = (unit.isBase && decide (exponent.toNat = 1))) ∧
    (∀ first second : ℤ, 1 ≤ first → 1 ≤ second → ∀ whole : StandardUnit,
      unit.power (.number (.int (first + second))) = .ok whole →
        ∃ left right, unit.power (.number (.int first)) = .ok left ∧
          unit.power (.number (.int second)) = .ok right ∧ left.times right = .ok whole) ∧
    (∀ exponent : Scalar,
      (∀ value : ℤ, exponent = .number (.int value) →
        value < 1 ∧ value.natAbs < 10 ^ digitLimit) →
      ∃ text, exponent.shown = .ok text ∧ unit.power exponent = .error (.unitPower text)) ∧
    (∀ (base : ItemUnit) (exponent : Item) (text : String),
      (∀ value : ℤ, exponent = .int value → value < 1) → exponent.shown = .ok text →
        Item.unitPower base exponent = .error (.unitPower text)) := by
  have positive {exponent : ℤ} (atLeast : 1 ≤ exponent) :
      ∃ count : ℕ, exponent = (count + 1 : ℕ) := ⟨exponent.toNat - 1, by omega⟩
  refine ⟨?parts, ?sums, ?scalars, fun base exponent text below shown =>
    Item.unitPower_refused base below shown⟩
  case parts =>
    intro exponent atLeast raised
    rcases positive atLeast with ⟨count, rfl⟩
    exact ordered.isSettled.power_iff_parts count
  case sums =>
    intro first second firstAtLeast secondAtLeast whole made
    rcases positive firstAtLeast with ⟨firstCount, rfl⟩
    rcases positive secondAtLeast with ⟨secondCount, rfl⟩
    exact ordered.isSettled.exists_times_of_power firstCount secondCount (by exact_mod_cast made)
  case scalars =>
    intro exponent allowed
    rcases Scalar.exists_shown fun value same => (allowed value same).2 with ⟨text, shown⟩
    exact ⟨text, shown, unit.power_refused (fun value same => (allowed value same).1) shown⟩

/-- A unit of one and a half, with terms on both sides. -/
def uneven : StandardUnit where
  dimension := ⟨⟨⟨.empty, ⟨["L"], ["T", "T"]⟩⟩, "L/T^2"⟩⟩
  representation :=
    ⟨⟨⟨[.float (.nearest false 3 2), 7], [2]⟩, ⟨["b", "a"], ["c"]⟩⟩, "10.5/2 a*b/c"⟩
  conversion := ⟨[Step.multiply (.float (.nearest false 3 2)) "1.5"]⟩
  isBase := false

theorem isOrdered_uneven : uneven.IsOrdered where
  dimension := ⟨⟨uneven.dimension.representation.toParts, by decide +kernel⟩, by decide +kernel⟩
  representation := ⟨⟨uneven.representation.toParts, by decide +kernel⟩, by decide +kernel⟩

theorem power_agrees_with_parts_uneven :
    uneven.IsOrdered ∧ ∃ whole left right : StandardUnit,
      uneven.power (.number (.int 3)) = .ok whole ∧
        uneven.dimension.power 3 = .ok whole.dimension ∧
        uneven.representation.power 3 = .ok whole.representation ∧
        uneven.power (.number (.int 1)) = .ok left ∧
        uneven.power (.number (.int 2)) = .ok right ∧ left.times right = .ok whole ∧
        ∃ text, uneven.power (.number (.int 0)) = .error (.unitPower text) := by
  rcases power_agrees_with_parts uneven isOrdered_uneven with ⟨parts, sums, refusals, _⟩
  cases made : uneven.power (.number (.int 3)) with
  | error fault =>
      have exists_power : (uneven.power (.number (.int 3))).isOk = true := by decide +kernel
      rw [made] at exists_power
      cases exists_power
  | ok whole =>
      have agrees := (parts 3 (by decide) whole).mp made
      rcases sums 1 2 (by decide) (by decide) whole made with ⟨left, right, first, second, product⟩
      have short (value : ℤ) (same : Scalar.number (.int 0) = .number (.int value)) :
          value < 1 ∧ value.natAbs < 10 ^ digitLimit := by
        cases same
        exact ⟨by decide, Nat.pos_of_ne_zero (by positivity)⟩
      rcases refusals (.number (.int 0)) short with ⟨text, _, refused⟩
      exact ⟨isOrdered_uneven, whole, left, right, rfl, agrees.1, agrees.2.1, first, second,
        product, text, refused⟩

/-- An exponent below one with one digit too many is refused for its digits. -/
theorem power_fails_on_long_exponent :
    -(10 : ℤ) ^ digitLimit < 1 ∧
      Catalogue.metre.power (.number (.int (-10 ^ digitLimit))) = .error .tooManyDigits :=
  ⟨neg_ten_pow_lt_one, Catalogue.metre.power_of_long neg_ten_pow_lt_one natAbs_neg_ten_pow.ge⟩

end MeasurementUnit
end Metrology
