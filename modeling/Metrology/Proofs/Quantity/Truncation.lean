import Mathlib
import Metrology.Catalogue
import Metrology.Proofs.Display.WholeTexts
import Metrology.Proofs.Quantity.Conversion

/-!
Integers cut off or rounded at decimal places. The magnitude that is read off a quantity is the
double nearest to its integer, at any number of decimal places, so that integers which are no
doubles are neither kept nor told apart. A display scales in doubles and adds a half, and shows
the integers to which that comes back.
-/

namespace Metrology

attribute [local irreducible] Binary64.one Binary64.overflowBound

open Binary64

namespace Quantity

/-- An integer is cut off to the double nearest to it, wherever that is done. -/
theorem truncate_int (places : ℕ) (value : ℤ) :
    truncate (.int places) (Number.int value) =
      (do return .float (← (Number.int value).toDouble)) := by
  rw [← divideIntegers_mul value (Nat.pow_pos (n := places) (Nat.succ_pos 9)), truncate,
    Number.powerOfTen_natCast]
  exact Result.bind_ok _

/-- Exactly the integers that are doubles are read off as they are. -/
theorem getValue_int_iff (unit : StandardUnit) (places : ℕ) (value : ℤ) :
    (∃ seen, getValue (.int places) ⟨Number.int value, unit⟩ = .ok seen ∧
      seen.equals (.int value) = true) ↔ IsExact value := by
  rw [getValue, truncate_int, ← isExact_iff]
  constructor
  · rintro ⟨seen, made, equal⟩
    rcases Result.bind_eq_ok.mp made with ⟨double, nearest, same⟩
    cases same
    exact ⟨double, nearest, equal⟩
  · rintro ⟨double, nearest, equal⟩
    exact ⟨_, Result.bind_eq_ok.mpr ⟨double, nearest, rfl⟩, equal⟩

/-- Quantities of one unit with integers that are doubles are equal when the integers are. -/
theorem equalsAt_int (unit : StandardUnit) (places : ℕ) {left right : ℤ}
    (leftExact : IsExact left) (rightExact : IsExact right) :
    equalsAt (.int places) ⟨Number.int left, unit⟩ ⟨Number.int right, unit⟩ =
      .ok (decide (left = right)) := by
  have dimensions : Dimensional.equals unit.dimension unit.dimension = .ok true :=
    congrArg Except.ok (Dimension.equals_refl unit.dimension)
  have units : unit.equals unit = true := beq_self_eq_true _
  have seen {value : ℤ} (exact : IsExact value) :
      truncate (.int places) (Number.int value) = .ok (.float (ofWhole value)) := by
    rw [truncate_int, toDouble_of_isExact exact]
    rfl
  have compared : (Number.float (ofWhole left)).equals (.float (ofWhole right)) =
      decide (left = right) := by
    rw [Number.equals_eq_decide (exact?_ofWhole left) (exact?_ofWhole right)]
    exact decide_eq_decide.mpr Int.cast_inj
  rw [equalsAt, equalsBy, dimensions, Result.ok_bind, if_pos rfl, if_pos units, Result.pure_eq,
    Result.ok_bind]
  dsimp only
  rw [seen leftExact, seen rightExact, Result.ok_bind, Result.ok_bind, ← compared]
  rfl

/-- What becomes of an integer at decimal places. If it is a double, and not otherwise, it is read
off as it is, and among integers that are doubles it is then equal only to itself. It is shown as
it is if rounding it half up comes back to it, and not otherwise; that is so when its multiple by
the power of ten is a double, unless it is odd and beyond 2⁵², and without decimal places in no
other case. -/
theorem integers_at_decimal_places (unit : StandardUnit) (places : ℕ) (value : ℤ) :
    ((∃ seen, getValue (.int places) ⟨Number.int value, unit⟩ = .ok seen ∧
      seen.equals (.int value) = true) ↔ IsExact value) ∧
    (∀ other : ℤ, IsExact value → IsExact other →
      equalsAt (.int places) ⟨Number.int value, unit⟩ ⟨Number.int other, unit⟩ =
        .ok (decide (value = other))) ∧
    (Transform.IsShownAt places value ↔ Transform.ComesBackAt places value) ∧
    (IsExact (value * (10 ^ places : ℕ)) →
      2 ∣ value * (10 ^ places : ℕ) ∨ (value * (10 ^ places : ℕ)).natAbs ≤ 2 ^ 52 →
        Transform.IsShownAt places value) ∧
    (Transform.IsShownAt 0 value ↔ IsExact value ∧ (2 ∣ value ∨ value.natAbs ≤ 2 ^ 52)) := by
  refine ⟨getValue_int_iff unit places value, fun other => equalsAt_int unit places,
    Transform.isShownAt_iff_comesBackAt, fun exact settled => ?_, Transform.isShownAt_zero_iff⟩
  exact .of_comesBackAt (Transform.comesBackAt_of_isExact exact settled)

/-- Large integers of few significant digits go through. -/
theorem integers_at_decimal_places_large :
    IsExact (2 ^ 60) ∧ IsExact (2 ^ 60 + 2 ^ 8) ∧
      equalsAt (.int (3 : ℕ)) ⟨Number.int (2 ^ 60), Catalogue.metre⟩
        ⟨Number.int (2 ^ 60 + 2 ^ 8), Catalogue.metre⟩ = .ok false ∧
      IsExact (-2 ^ 60 * (10 ^ 2 : ℕ)) ∧ 2 ∣ -2 ^ 60 * ((10 ^ 2 : ℕ) : ℤ) ∧
      Transform.IsShownAt 2 (-2 ^ 60) ∧
      integerText (-2 ^ 60) = .ok "-1152921504606846976" := by
  rcases integers_at_decimal_places Catalogue.metre 3 (2 ^ 60) with ⟨_, equality, _⟩
  rcases integers_at_decimal_places Catalogue.metre 2 (-2 ^ 60) with ⟨_, _, _, shows, _⟩
  have left : IsExact (2 ^ 60) := by decide +kernel
  have right : IsExact (2 ^ 60 + 2 ^ 8) := by decide +kernel
  have scaled : IsExact (-2 ^ 60 * (10 ^ 2 : ℕ)) := by decide +kernel
  have even : 2 ∣ -2 ^ 60 * ((10 ^ 2 : ℕ) : ℤ) := by decide +kernel
  have spelled : integerText (-2 ^ 60) = .ok "-1152921504606846976" := by decide +kernel
  refine ⟨left, right, ?_, scaled, even, shows scaled (.inl even), spelled⟩
  rw [equality (2 ^ 60 + 2 ^ 8) left right]
  decide +kernel

/-- The first integer that is no double is read off as its neighbour, which it is then equal
to; an odd integer beyond 2⁵² is shown as the next one. -/
theorem integers_change_at_decimal_places :
    getValue (.int 0) ⟨Number.int (2 ^ 53 + 1), Catalogue.metre⟩ =
        .ok (.float (.ofInt (2 ^ 53))) ∧
      (Number.float (.ofInt (2 ^ 53))).equals (.int (2 ^ 53 + 1)) = false ∧
      equalsAt (.int 0) ⟨Number.int (2 ^ 53), Catalogue.metre⟩
        ⟨Number.int (2 ^ 53 + 1), Catalogue.metre⟩ = .ok true ∧
      ((Transform.roundTo (some 0) 1 false).apply (.ofValue (Number.int (2 ^ 52 + 1))) >>=
        Intermediate.text) = .ok "4503599627370498" := by
  decide +kernel

end Quantity
end Metrology
