import Mathlib
import Metrology.Number.Binary64

/-!
Where rounding crosses a power of two. A quotient is rounded to 53 binary digits, a half to
the even neighbour. On which side of a power of two the result comes to lie is therefore
settled by the quotient alone: above the power neighbouring doubles lie twice as far apart
as below it, so that the quotients that are rounded to the power itself reach twice as far up
as down.
-/

namespace Metrology

/-! ## Binary digits -/

theorem bitLength_le_iff {value length : ℕ} : bitLength value ≤ length ↔ value < 2 ^ length := by
  rw [bitLength]
  split
  · next zero => simp [zero]
  · next nonzero => rw [Nat.succ_le_iff, Nat.log2_lt nonzero]

theorem two_pow_le_of_lt_bitLength {value length : ℕ} (longer : length < bitLength value) :
    2 ^ length ≤ value := by
  by_contra smaller
  have shorter := bitLength_le_iff.mpr (not_le.mp smaller)
  omega

/-! ## Rounding to a whole number -/

section Quotient

variable {numerator denominator bound : ℕ}

theorem multiples_compare (first second unit : ℕ) :
    (first < second → first * unit + unit ≤ second * unit) ∧
      (first = second → first * unit = second * unit) ∧
      (second < first → second * unit + unit ≤ first * unit) := by
  refine ⟨fun less => ?_, congrArg (· * unit), fun greater => ?_⟩
  · rw [← Nat.succ_mul]
    exact Nat.mul_le_mul_right unit less
  · rw [← Nat.succ_mul]
    exact Nat.mul_le_mul_right unit greater

/-- What is rounded, in units of the denominator and a remainder. -/
theorem roundQuotient_cases (positive : 0 < denominator) (numerator : ℕ) :
    ∃ floor remainder, numerator = floor * denominator + remainder ∧ remainder < denominator ∧
      (denominator < 2 * remainder ∧ roundQuotient numerator denominator = floor + 1 ∨
        2 * remainder = denominator ∧
          roundQuotient numerator denominator = floor + floor % 2 ∨
        2 * remainder < denominator ∧ roundQuotient numerator denominator = floor) := by
  refine ⟨numerator / denominator, numerator % denominator, ?_, Nat.mod_lt _ positive, ?_⟩
  · exact (Nat.div_add_mod' _ _).symm
  · rw [roundQuotient]
    split
    · next above => exact .inl ⟨above, rfl⟩
    · next notAbove =>
        split
        · next half => exact .inr (.inl ⟨half, rfl⟩)
        · next notHalf => exact .inr (.inr ⟨by omega, rfl⟩)

/-- An even number is reached from half a unit below it on. -/
theorem le_roundQuotient_iff (positive : 0 < denominator) (even : bound % 2 = 0) :
    bound ≤ roundQuotient numerator denominator ↔
      2 * (bound * denominator) ≤ 2 * numerator + denominator := by
  rcases roundQuotient_cases positive numerator with ⟨floor, remainder, rfl, small, cases⟩
  have compared := multiples_compare floor bound denominator
  have following := multiples_compare (floor + 1) bound denominator
  rw [Nat.succ_mul] at following
  rcases cases with ⟨above, rounded⟩ | ⟨half, rounded⟩ | ⟨below, rounded⟩
  all_goals
    rw [rounded]
    omega

/-- An even number is not exceeded up to half a unit above it. -/
theorem roundQuotient_le_iff (positive : 0 < denominator) (even : bound % 2 = 0) :
    roundQuotient numerator denominator ≤ bound ↔
      2 * numerator ≤ 2 * (bound * denominator) + denominator := by
  rcases roundQuotient_cases positive numerator with ⟨floor, remainder, rfl, small, cases⟩
  have compared := multiples_compare floor bound denominator
  rcases cases with ⟨above, rounded⟩ | ⟨half, rounded⟩ | ⟨below, rounded⟩
  all_goals
    rw [rounded]
    omega

/-- A number that the quotient does not exceed is not exceeded by rounding either. -/
theorem roundQuotient_le (positive : 0 < denominator)
    (bounded : numerator ≤ bound * denominator) :
    roundQuotient numerator denominator ≤ bound := by
  rcases roundQuotient_cases positive numerator with ⟨floor, remainder, rfl, small, cases⟩
  have compared := multiples_compare floor bound denominator
  rcases cases with ⟨above, rounded⟩ | ⟨half, rounded⟩ | ⟨below, rounded⟩
  all_goals
    rw [rounded]
    omega

end Quotient

namespace Binary64

theorem signed_mul (negative : Bool) (magnitude factor : ℕ) :
    signed negative (magnitude * factor) = signed negative magnitude * factor := by
  cases negative <;> simp [signed]

/-! ## Rounding to 53 binary digits -/

section Quanta

variable {numerator denominator : ℕ} (positive : 0 < denominator)

include positive

theorem lt_of_bitLength_le {digits excess : ℕ}
    (short : bitLength (numerator / denominator) ≤ excess + digits) :
    numerator < 2 ^ digits * (denominator * 2 ^ excess) := by
  have bounded := (Nat.div_lt_iff_lt_mul positive).mp (bitLength_le_iff.mp short)
  calc numerator < 2 ^ (excess + digits) * denominator := bounded
    _ = 2 ^ digits * (denominator * 2 ^ excess) := by ring

theorem le_of_lt_bitLength {digits excess : ℕ}
    (long : excess + digits < bitLength (numerator / denominator)) :
    2 ^ digits * (denominator * 2 ^ excess) ≤ numerator := by
  have reached := (Nat.le_div_iff_mul_le positive).mp (two_pow_le_of_lt_bitLength long)
  calc 2 ^ digits * (denominator * 2 ^ excess) = 2 ^ (excess + digits) * denominator := by ring
    _ ≤ numerator := reached

theorem roundQuanta_le_two_pow :
    roundQuanta numerator denominator ≤ 2 ^ bitLength (numerator / denominator) := by
  rcases Nat.exists_eq_add_of_le (Nat.sub_le (bitLength (numerator / denominator)) precision) with
    ⟨digits, split⟩
  have bounded := lt_of_bitLength_le positive split.le
  have whole := roundQuotient_le (Nat.mul_pos positive (Nat.two_pow_pos _)) bounded.le
  calc roundQuanta numerator denominator
      ≤ 2 ^ digits * 2 ^ (bitLength (numerator / denominator) - precision) :=
        Nat.mul_le_mul_right _ whole
    _ = 2 ^ bitLength (numerator / denominator) := by
        rw [← pow_add, add_comm, ← split]

omit positive in
theorem roundQuanta_eq {excess : ℕ}
    (long : bitLength (numerator / denominator) = excess + 53) :
    roundQuanta numerator denominator =
      roundQuotient numerator (denominator * 2 ^ excess) * 2 ^ excess := by
  have unit : bitLength (numerator / denominator) - precision = excess := by
    rw [long, precision, Nat.add_sub_cancel]
  rw [← unit]
  rfl

/-- Rounding does not go below the power of two under a quotient of 53 digits or more. -/
theorem two_pow_le_roundQuanta {excess : ℕ}
    (long : bitLength (numerator / denominator) = excess + 53) :
    2 ^ (excess + 52) ≤ roundQuanta numerator denominator := by
  have reached : 2 ^ 52 * (denominator * 2 ^ excess) ≤ numerator :=
    le_of_lt_bitLength positive (by omega)
  have whole : 2 ^ 52 ≤ roundQuotient numerator (denominator * 2 ^ excess) :=
    (le_roundQuotient_iff (Nat.mul_pos positive (Nat.two_pow_pos _)) (by decide)).mpr (by omega)
  rw [roundQuanta_eq long, add_comm, pow_add]
  exact Nat.mul_le_mul_right _ whole

theorem bounds_of_shorter {excess : ℕ}
    (shorter : bitLength (numerator / denominator) < excess + 53) :
    numerator < 2 ^ 52 * (denominator * 2 ^ excess) ∧
      roundQuanta numerator denominator ≤ 2 ^ (excess + 52) := by
  constructor
  · exact lt_of_bitLength_le positive (by omega)
  · apply (roundQuanta_le_two_pow positive).trans
    exact Nat.pow_le_pow_right (by decide) (by omega)

theorem bounds_of_longer {excess : ℕ}
    (longer : excess + 53 < bitLength (numerator / denominator)) :
    2 ^ 53 * (denominator * 2 ^ excess) ≤ numerator ∧
      2 ^ (excess + 53) ≤ roundQuanta numerator denominator := by
  rcases Nat.exists_eq_add_of_lt longer with ⟨further, long⟩
  have rounded : 2 ^ (excess + further + 1 + 52) ≤ roundQuanta numerator denominator :=
    two_pow_le_roundQuanta positive (by omega)
  constructor
  · exact le_of_lt_bitLength positive longer
  · apply le_trans _ rounded
    exact Nat.pow_le_pow_right (by decide) (by omega)

/-- A power of two is reached from a quarter of the unit above it. -/
theorem two_pow_le_roundQuanta_iff {excess : ℕ} :
    2 ^ (excess + 53) ≤ roundQuanta numerator denominator ↔
      (2 ^ 54 - 1) * (denominator * 2 ^ excess) ≤ 2 * numerator := by
  have scaled : 0 < denominator * 2 ^ excess := Nat.mul_pos positive (Nat.two_pow_pos _)
  have power : 0 < 2 ^ (excess + 52) := Nat.two_pow_pos _
  have doubled : 2 ^ (excess + 53) = 2 ^ (excess + 52) * 2 := pow_succ 2 (excess + 52)
  rcases lt_trichotomy (bitLength (numerator / denominator)) (excess + 53) with
    shorter | same | longer
  · have bounds := bounds_of_shorter positive shorter
    omega
  · rw [roundQuanta_eq same, add_comm, pow_add,
      Nat.mul_le_mul_right_iff (Nat.two_pow_pos excess),
      le_roundQuotient_iff scaled (by decide)]
    omega
  · have bounds := bounds_of_longer positive longer
    omega

/-- A power of two is not exceeded up to half the unit above it. -/
theorem roundQuanta_le_two_pow_iff {excess : ℕ} :
    roundQuanta numerator denominator ≤ 2 ^ (excess + 52) ↔
      2 * numerator ≤ (2 ^ 53 + 1) * (denominator * 2 ^ excess) := by
  have scaled : 0 < denominator * 2 ^ excess := Nat.mul_pos positive (Nat.two_pow_pos _)
  have power : 0 < 2 ^ (excess + 52) := Nat.two_pow_pos _
  have doubled : 2 ^ (excess + 53) = 2 ^ (excess + 52) * 2 := pow_succ 2 (excess + 52)
  rcases lt_trichotomy (bitLength (numerator / denominator)) (excess + 53) with
    shorter | same | longer
  · have bounds := bounds_of_shorter positive shorter
    omega
  · rw [roundQuanta_eq same, add_comm, pow_add,
      Nat.mul_le_mul_right_iff (Nat.two_pow_pos excess),
      roundQuotient_le_iff scaled (by decide)]
    omega
  · have bounds := bounds_of_longer positive longer
    omega

end Quanta

/-! ## Quotients of naturals -/

theorem one_pos : 0 < one := by decide +kernel

theorem one_eq_two_pow {exponent : ℕ} (same : exponent = 1074) : one = 2 ^ exponent := by
  subst exponent
  decide +kernel

theorem overflowBound_eq_two_pow {exponent : ℕ} (same : exponent = 2098) :
    overflowBound = 2 ^ exponent := by
  subst exponent
  decide +kernel

/-- Quotients to which one is the nearest double: at most a quarter of a unit less than one,
or half a unit more. -/
def IsNearlyOne (numerator denominator : ℕ) : Prop :=
  (2 ^ 54 - 1) * denominator ≤ 2 ^ 54 * numerator ∧
    2 ^ 53 * numerator ≤ (2 ^ 53 + 1) * denominator

instance (numerator denominator : ℕ) : Decidable (IsNearlyOne numerator denominator) :=
  inferInstanceAs (Decidable (_ ∧ _))

/-- Quotients that are too large for a double, from half a unit past the largest one on. -/
def IsTooLarge (numerator denominator : ℕ) : Prop :=
  (2 ^ 54 - 1) * (denominator * 2 ^ 970) ≤ numerator

instance (numerator denominator : ℕ) : Decidable (IsTooLarge numerator denominator) :=
  inferInstanceAs (Decidable (_ ≤ _))

section LowestTerms

variable {common numerator denominator : ℕ}

theorem isNearlyOne_mul (positive : 0 < common) :
    IsNearlyOne (common * numerator) (common * denominator) ↔
      IsNearlyOne numerator denominator := by
  rw [IsNearlyOne, IsNearlyOne, Nat.mul_left_comm, Nat.mul_left_comm (2 ^ 54),
    Nat.mul_left_comm (2 ^ 53), Nat.mul_left_comm (2 ^ 53 + 1),
    Nat.mul_le_mul_left_iff positive, Nat.mul_le_mul_left_iff positive]

theorem isTooLarge_mul (positive : 0 < common) :
    IsTooLarge (common * numerator) (common * denominator) ↔ IsTooLarge numerator denominator := by
  rw [IsTooLarge, IsTooLarge, mul_assoc, Nat.mul_left_comm, Nat.mul_le_mul_left_iff positive]

theorem isNearlyOne_div_gcd (positive : 0 < numerator) :
    IsNearlyOne (numerator / numerator.gcd denominator) (denominator / numerator.gcd denominator) ↔
      IsNearlyOne numerator denominator := by
  rw [← isNearlyOne_mul (Nat.gcd_pos_of_pos_left denominator positive),
    Nat.mul_div_cancel' (Nat.gcd_dvd_left _ _), Nat.mul_div_cancel' (Nat.gcd_dvd_right _ _)]

theorem isTooLarge_div_gcd (positive : 0 < numerator) :
    IsTooLarge (numerator / numerator.gcd denominator) (denominator / numerator.gcd denominator) ↔
      IsTooLarge numerator denominator := by
  rw [← isTooLarge_mul (Nat.gcd_pos_of_pos_left denominator positive),
    Nat.mul_div_cancel' (Nat.gcd_dvd_left _ _), Nat.mul_div_cancel' (Nat.gcd_dvd_right _ _)]

end LowestTerms

/-- A quotient with a denominator below 2⁵³ is nearly one only when it is one. -/
theorem IsNearlyOne.eq {numerator denominator : ℕ} (nearlyOne : IsNearlyOne numerator denominator)
    (small : denominator < 2 ^ 53) : numerator = denominator := by
  rcases nearlyOne with ⟨below, above⟩
  omega

theorem isNearlyOne_self (value : ℕ) : IsNearlyOne value value := by
  rw [IsNearlyOne]
  omega

theorem IsNearlyOne.not_isTooLarge {numerator denominator : ℕ}
    (nearlyOne : IsNearlyOne numerator denominator) (positive : 0 < denominator) :
    ¬IsTooLarge numerator denominator := by
  intro large
  have scaled (excess : ℕ) : denominator ≤ denominator * 2 ^ excess :=
    Nat.le_mul_of_pos_right denominator (Nat.two_pow_pos excess)
  have bound := scaled 970
  rw [IsTooLarge] at large
  rcases nearlyOne with ⟨below, above⟩
  generalize denominator * 2 ^ 970 = product at bound large
  omega

section Nearest

variable {numerator denominator : ℕ} (positive : 0 < denominator)

include positive

theorem roundQuanta_eq_one_iff :
    roundQuanta (numerator * one) denominator = one ↔ IsNearlyOne numerator denominator := by
  -- The exponents stay variables, so that no power of two is written out.
  rcases (⟨1021, rfl⟩ : ∃ excess, excess + 53 = 1074) with ⟨excess, split⟩
  have quanta : one = 2 ^ 53 * 2 ^ excess := by
    rw [one_eq_two_pow split, pow_add, mul_comm]
  have lower : one ≤ roundQuanta (numerator * one) denominator ↔
      (2 ^ 54 - 1) * (denominator * 2 ^ excess) ≤ 2 * (numerator * one) := by
    rw [← two_pow_le_roundQuanta_iff positive, ← one_eq_two_pow split]
  have upper : roundQuanta (numerator * one) denominator ≤ one ↔
      2 * (numerator * one) ≤ (2 ^ 53 + 1) * (denominator * 2 ^ (excess + 1)) := by
    rw [← roundQuanta_le_two_pow_iff positive, ← one_eq_two_pow (by omega)]
  have doubled : 2 * (numerator * (2 ^ 53 * 2 ^ excess)) = 2 ^ 54 * numerator * 2 ^ excess := by
    ring
  have below : (2 ^ 54 - 1) * (denominator * 2 ^ excess) =
      (2 ^ 54 - 1) * denominator * 2 ^ excess := (mul_assoc _ _ _).symm
  have above : (2 ^ 53 + 1) * (denominator * 2 ^ (excess + 1)) =
      2 * ((2 ^ 53 + 1) * denominator) * 2 ^ excess := by ring
  rw [le_antisymm_iff, and_comm, lower, upper, quanta, doubled, below, above,
    Nat.mul_le_mul_right_iff (Nat.two_pow_pos excess),
    Nat.mul_le_mul_right_iff (Nat.two_pow_pos excess), IsNearlyOne]
  omega

theorem overflowBound_le_roundQuanta_iff :
    overflowBound ≤ roundQuanta (numerator * one) denominator ↔
      IsTooLarge numerator denominator := by
  rcases (⟨970, rfl⟩ : ∃ excess, excess = 970) with ⟨excess, split⟩
  have bound : overflowBound ≤ roundQuanta (numerator * one) denominator ↔
      (2 ^ 54 - 1) * (denominator * 2 ^ (excess + 1075)) ≤ 2 * (numerator * one) := by
    rw [← two_pow_le_roundQuanta_iff positive, ← overflowBound_eq_two_pow (by omega)]
  have quanta (exponent : ℕ) : (2 ^ 54 - 1) * (denominator * 2 ^ (excess + (exponent + 1))) =
      (2 ^ 54 - 1) * (denominator * 2 ^ excess) * (2 * 2 ^ exponent) := by
    ring
  have doubled : 2 * (numerator * one) = numerator * (2 * one) := by ring
  rw [bound, IsTooLarge, quanta 1074, doubled, ← split, ← one_eq_two_pow rfl,
    Nat.mul_le_mul_right_iff (Nat.mul_pos two_pos one_pos)]

/-- The quotient of two naturals rounds to one when it is nearly one. -/
theorem nearest_eq_one_iff :
    nearest false numerator denominator = .finite false one ↔
      IsNearlyOne numerator denominator := by
  rw [← roundQuanta_eq_one_iff positive, nearest, ofQuotient]
  split
  · simp
  · next large =>
      have bounded : one < overflowBound := by decide +kernel
      simp only [reduceCtorEq, false_iff]
      omega

/-- The quotient of two naturals has a double unless it is too large. -/
theorem isFinite_nearest :
    (nearest false numerator denominator).isFinite = true ↔
      ¬IsTooLarge numerator denominator := by
  rw [← overflowBound_le_roundQuanta_iff positive, nearest, ofQuotient]
  split
  · next small => simpa [isFinite] using small
  · next large => simpa [isFinite] using large

end Nearest
end Binary64
end Metrology
