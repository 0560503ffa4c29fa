import Mathlib
import Metrology.Proofs.Number.RoundingError

/-!
Numbers rounded to decimal places. Two numbers that are rounded to the same multiple of a
power of ten become the same number, an integer like a double, as long as the double nearest
to the integer is the integer itself. That holds of an integer that a double is equal to, since
doubles keep all the digits that they have. And rounding never leaves the range of doubles:
those that are near its end are whole numbers, of which rounding takes nothing away.
-/

namespace Metrology

attribute [local irreducible] Binary64.one Binary64.overflowBound

namespace Binary64

/-! ## Digits that are kept -/

/-- Counts of quanta with at most 53 significant binary digits, which rounding keeps. -/
def IsKept (quanta : ℕ) : Prop := 2 ^ (bitLength quanta - precision) ∣ quanta

theorem isKept_zero : IsKept 0 := dvd_zero _

theorem isKept_of_dvd {quanta excess : ℕ} (divides : 2 ^ excess ∣ quanta)
    (small : quanta ≤ 2 ^ (excess + precision)) : IsKept quanta := by
  rcases small.lt_or_eq with less | same
  · have short : bitLength quanta ≤ excess + precision := bitLength_le_iff.mpr less
    exact (pow_dvd_pow 2 (Nat.sub_le_iff_le_add.mpr short)).trans divides
  · have short : bitLength quanta ≤ excess + precision + 1 := by
      rw [bitLength_le_iff, same]
      exact Nat.pow_lt_pow_right (by decide) (Nat.lt_succ_self _)
    have digits : 1 ≤ precision := by decide
    have power : 2 ^ (bitLength quanta - precision) ∣ 2 ^ (excess + precision) :=
      pow_dvd_pow 2 (by omega)
    rwa [← same] at power

theorem isKept_roundQuanta {denominator : ℕ} (positive : 0 < denominator) (numerator : ℕ) :
    IsKept (roundQuanta numerator denominator) := by
  have short : bitLength (numerator / denominator) ≤
      bitLength (numerator / denominator) - precision + precision := le_tsub_add
  exact isKept_of_dvd (dvd_mul_left _ _)
    ((roundQuanta_le_two_pow positive).trans (Nat.pow_le_pow_right (by decide) short))

theorem roundQuotient_mul {unit : ℕ} (positive : 0 < unit) (whole : ℕ) :
    roundQuotient (whole * unit) unit = whole := by
  rw [roundQuotient, Nat.mul_div_cancel _ positive, Nat.mul_mod_left]
  simp [positive.ne]

/-- Rounding to 53 binary digits changes nothing where there are no more. -/
theorem roundQuanta_of_isKept {quanta : ℕ} (kept : IsKept quanta) {denominator : ℕ}
    (positive : 0 < denominator) : roundQuanta (quanta * denominator) denominator = quanta := by
  rcases kept with ⟨digits, split⟩
  have scaled : 0 < 2 ^ (bitLength quanta - precision) := Nat.two_pow_pos _
  rw [roundQuanta, Nat.mul_div_cancel _ positive, Nat.pow_eq]
  generalize 2 ^ (bitLength quanta - precision) = unit at *
  have multiple : quanta * denominator = digits * (denominator * unit) := by
    rw [split]
    ring
  rw [multiple, roundQuotient_mul (Nat.mul_pos positive scaled), split, mul_comm]

theorem isKept_mul_one {whole : ℕ} (small : whole < 2 ^ 53) : IsKept (whole * one) := by
  rcases (⟨1074, rfl⟩ : ∃ exponent, exponent = 1074) with ⟨exponent, same⟩
  rw [one_eq_two_pow same, mul_comm]
  apply isKept_of_dvd (dvd_mul_right _ _)
  rw [pow_add]
  exact Nat.mul_le_mul_left _ small.le

/-- Doubles whose digits are kept and that are in range, as every result is. -/
def Kept : Binary64 → Prop
  | .finite _ quanta => IsKept quanta ∧ quanta < overflowBound
  | .infinite _ => True
  | .nan _ => True

theorem kept_ofQuotient {denominator : ℕ} (positive : 0 < denominator) (negative : Bool)
    (numerator : ℕ) : (ofQuotient negative numerator denominator).Kept := by
  rw [ofQuotient]
  split
  · next inRange => exact ⟨isKept_roundQuanta positive numerator, inRange⟩
  · trivial

theorem kept_finite_zero (negative : Bool) : (finite negative 0).Kept :=
  ⟨isKept_zero, by decide +kernel⟩

theorem kept_ofQuanta (zeroNegative : Bool) (quanta : ℤ) :
    (ofQuanta zeroNegative quanta).Kept := by
  rw [ofQuanta]
  split
  · exact kept_finite_zero _
  · exact kept_ofQuotient Nat.one_pos _ _

theorem kept_add (left right : Binary64) : (left.add right).Kept := by
  fun_cases left.add right with
  | case7 => exact kept_ofQuanta _ _
  | _ => trivial

theorem kept_sub (left right : Binary64) : (left.sub right).Kept := kept_add _ _

theorem kept_mul (left right : Binary64) : (left.mul right).Kept := by
  fun_cases left.mul right with
  | case3 => exact kept_ofQuotient one_pos _ _
  | _ => trivial

theorem kept_div (left : Binary64) {right : Binary64} (nonzero : right.isZero = false) :
    (left.div right).Kept := by
  fun_cases left.div right with
  | case3 _ _ _ quanta =>
      rw [isZero, beq_eq_false_iff_ne] at nonzero
      exact kept_ofQuotient (Nat.pos_of_ne_zero nonzero) _ _
  | case4 => exact kept_finite_zero _
  | _ => trivial

theorem kept_neg {value : Binary64} (kept : value.Kept) : value.neg.Kept := by
  cases value <;> exact kept

end Binary64

namespace Number

open Binary64

/-- Integers, and doubles whose digits are kept. -/
def Kept : Number → Prop
  | .int _ => True
  | .float value => value.Kept

section Results

variable {number constant next : Number}

theorem kept_of_combine {integers : ℤ → ℤ → ℤ} {doubles : Binary64 → Binary64 → Binary64}
    (kept : ∀ left right, (doubles left right).Kept)
    (made : combine integers doubles number constant = .ok next) : next.Kept := by
  have viaDoubles (opened : (do
      let left ← number.toDouble
      let right ← constant.toDouble
      return .float (doubles left right)) = Except.ok next) : next.Kept := by
    rcases Result.bind_eq_ok.mp opened with ⟨left, _, rest⟩
    rcases Result.bind_eq_ok.mp rest with ⟨right, _, last⟩
    cases last
    exact kept left right
  cases number with
  | float value => exact viaDoubles made
  | int value =>
      cases constant with
      | float other => exact viaDoubles made
      | int other =>
          cases made
          trivial

theorem kept_of_div (made : number.div constant = .ok next) : next.Kept := by
  have viaDoubles (opened : (do
      let left ← number.toDouble
      let right ← constant.toDouble
      if right.isZero then .error .divisionByZero else return .float (left.div right)) =
        Except.ok next) : next.Kept := by
    rcases Result.bind_eq_ok.mp opened with ⟨left, _, rest⟩
    rcases Result.bind_eq_ok.mp rest with ⟨right, _, last⟩
    split at last
    · cases last
    · next nonzero =>
        cases last
        exact kept_div left (Bool.eq_false_iff.mpr nonzero)
  cases number with
  | float value => exact viaDoubles made
  | int value =>
      cases constant with
      | float other => exact viaDoubles made
      | int other =>
          rw [div, divideIntegers] at made
          split at made
          · cases made
          · next nonzero =>
              dsimp only at made
              split at made
              · cases made
                exact kept_ofQuotient (Int.natAbs_pos.mpr nonzero) _ _
              · cases made

theorem kept_negate (kept : number.Kept) : number.neg.Kept := by
  cases number with
  | int value => trivial
  | float value => exact kept_neg kept

end Results

/-! ## Rounding to decimal places -/

/-- A function of magnitudes that keeps zero, on amounts with a sign. -/
theorem signed_congr {function : ℕ → ℕ} (zero : function 0 = 0) {first second : Bool}
    {left right : ℕ} (same : signed first left = signed second right) :
    signed first (function left) = signed second (function right) := by
  have both : left = right ∧ (first = second ∨ right = 0) := by
    cases first <;> cases second <;> simp [signed] at same ⊢ <;> omega
  rcases both with ⟨rfl, rfl | none⟩
  · rfl
  · rw [none, zero]
    cases first <;> cases second <;> rfl

theorem decimalQuotient_natCast (digits places : ℕ) :
    decimalQuotient digits places = (digits * 10 ^ places, 1) := by
  simp [decimalQuotient]

theorem decimalQuotient_neg_natCast (digits places : ℕ) :
    decimalQuotient digits (-places) = (digits, 10 ^ places) := by
  simp [decimalQuotient]

/-- The count of quanta of the double nearest to so many units of the last decimal place. -/
def nearestDecimal (places units : ℕ) : ℕ := roundQuanta (units * Binary64.one) (10 ^ places)

/-- The count of quanta of a double after rounding to decimal places: to a count of units of
the last place, and back. -/
def roundedQuanta (places quanta : ℕ) : ℕ :=
  nearestDecimal places (roundQuotient (quanta * 10 ^ places) Binary64.one)

/-- Whole numbers come back from any number of decimal places. -/
theorem nearestDecimal_mul {whole : ℕ} (kept : IsKept (whole * Binary64.one)) (places : ℕ) :
    nearestDecimal places (whole * 10 ^ places) = whole * Binary64.one := by
  rw [nearestDecimal, mul_right_comm]
  exact roundQuanta_of_isKept kept (Nat.pow_pos (Nat.succ_pos 9))

theorem roundedQuanta_mul_one {whole : ℕ} (kept : IsKept (whole * Binary64.one)) (places : ℕ) :
    roundedQuanta places (whole * Binary64.one) = whole * Binary64.one := by
  rw [roundedQuanta, mul_right_comm, roundQuotient_mul Binary64.one_pos, nearestDecimal_mul kept]

theorem nearestDecimal_zero (places : ℕ) : nearestDecimal places 0 = 0 := by
  have whole : nearestDecimal places (0 * 10 ^ places) = 0 * Binary64.one :=
    nearestDecimal_mul (by rw [Nat.zero_mul]; exact isKept_zero) places
  rwa [Nat.zero_mul, Nat.zero_mul] at whole

theorem roundedQuanta_zero (places : ℕ) : roundedQuanta places 0 = 0 := by
  have whole : roundedQuanta places (0 * Binary64.one) = 0 * Binary64.one :=
    roundedQuanta_mul_one (by rw [Nat.zero_mul]; exact isKept_zero) places
  rwa [Nat.zero_mul] at whole

theorem roundedAt_finite (places : ℕ) (negative : Bool) (quanta : ℕ) :
    Binary64.roundedAt places (.finite negative quanta) =
      ofQuotient negative (roundQuotient (quanta * 10 ^ places) Binary64.one * Binary64.one)
        (10 ^ places) := by
  rw [roundedAt, ofDecimal, decimalQuotient_neg_natCast, unitsAt, decimalQuotient_natCast]
  simp only [Nat.one_mul]
  rfl

section Range

variable {places : ℕ} {negative : Bool} {quanta : ℕ}

theorem natAbs_signed (negative : Bool) (magnitude : ℕ) :
    (signed negative magnitude).natAbs = magnitude := by
  cases negative <;> simp [signed]

theorem signed_eq_of_div_eq {first second : Bool} {left right : ℕ}
    (same : (signed first left : ℚ) / Binary64.one = (signed second right : ℚ) / Binary64.one) :
    signed first left = signed second right := by
  rw [div_left_inj' unit_pos.ne'] at same
  exact_mod_cast same

/-- The count of units of the last place is nearest to the amount. -/
theorem abs_units_sub_le (places : ℕ) (negative : Bool) (quanta : ℕ) :
    |((signed negative (roundQuotient (quanta * 10 ^ places) Binary64.one) : ℤ) : ℚ) -
      (signed negative quanta : ℚ) / Binary64.one * 10 ^ places| ≤ 1 / 2 := by
  have near := abs_roundQuotient_sub_le Binary64.one_pos (quanta * 10 ^ places)
  push_cast at near
  rw [cast_signed, cast_signed]
  cases negative with
  | false =>
      rw [div_mul_eq_mul_div]
      exact near
  | true =>
      simp only [if_true]
      rw [neg_div, neg_mul, neg_sub_neg, abs_sub_comm, div_mul_eq_mul_div]
      exact near

/-- A double that is too large for a fraction is a whole number. -/
theorem exists_whole (kept : IsKept quanta) (large : 2 ^ 53 * Binary64.one ≤ quanta) :
    ∃ whole, quanta = whole * Binary64.one := by
  rcases (⟨1074, rfl⟩ : ∃ exponent, exponent = 1074) with ⟨exponent, same⟩
  rw [one_eq_two_pow same] at large ⊢
  have long : 53 + exponent < bitLength quanta := by
    by_contra short
    rw [← pow_add] at large
    exact absurd (bitLength_le_iff.mp (not_lt.mp short)) (not_lt.mpr large)
  have divides : 2 ^ exponent ∣ quanta :=
    (pow_dvd_pow 2 (by rw [precision]; omega)).trans kept
  exact exists_eq_mul_left_of_dvd divides

theorem roundedQuanta_lt_of_small (places : ℕ) (small : quanta < 2 ^ 53 * Binary64.one) :
    roundedQuanta places quanta < overflowBound := by
  by_contra large
  have scale : (1 : ℚ) ≤ 10 ^ places := one_le_pow₀ (by norm_num)
  have bound := vast_le_of_overflowBound_le (Nat.pow_pos (Nat.succ_pos 9)) (not_lt.mp large)
  have units := (abs_sub_le_iff.mp (abs_units_sub_le places false quanta)).1
  rw [cast_signed, cast_signed, if_neg Bool.false_ne_true, if_neg Bool.false_ne_true] at units
  push_cast at bound
  rw [div_right_comm, mul_div_cancel_right₀ _ unit_pos.ne'] at bound
  generalize (roundQuotient (quanta * 10 ^ places) Binary64.one : ℚ) = count at bound units
  have less : (quanta : ℚ) / Binary64.one < 2 ^ 53 := by
    rw [div_lt_iff₀ unit_pos]
    exact_mod_cast small
  have scaled : count / 10 ^ places ≤ quanta / Binary64.one + 1 / 2 := by
    rw [div_le_iff₀ (by positivity), add_mul]
    have more : (1 : ℚ) / 2 ≤ 1 / 2 * 10 ^ places := le_mul_of_one_le_right (by norm_num) scale
    linarith
  have enormous : (2 : ℚ) ^ 53 + 1 / 2 ≤ vast := by decide +kernel
  linarith

/-- Rounding to decimal places stays in range: it does nothing to large doubles. -/
theorem roundedQuanta_lt (kept : (Binary64.finite negative quanta).Kept) (places : ℕ) :
    roundedQuanta places quanta < overflowBound := by
  rcases kept with ⟨kept, inRange⟩
  rcases Nat.lt_or_ge quanta (2 ^ 53 * Binary64.one) with small | large
  · exact roundedQuanta_lt_of_small places small
  · rcases exists_whole kept large with ⟨whole, rfl⟩
    rwa [roundedQuanta_mul_one kept]

theorem round_finite (few : places ≤ 323) (kept : (Binary64.finite negative quanta).Kept) :
    (Number.float (.finite negative quanta)).round places =
      .ok (.float (.finite negative (roundedQuanta places quanta))) := by
  have notMany : ¬mostPlaces < places := by
    rw [mostPlaces]
    omega
  have notFew : ¬(places : ℤ) < fewestPlaces := by
    rw [fewestPlaces]
    omega
  have rounded : roundedAt places (.finite negative quanta) =
      .finite negative (roundedQuanta places quanta) := by
    rw [roundedAt_finite, ofQuotient]
    exact if_pos (roundedQuanta_lt kept places)
  rw [round, roundDouble, if_neg notMany, if_neg notFew, rounded]
  rfl

theorem round_finite_of_many (many : 323 < places) (negative : Bool) (quanta : ℕ) :
    (Number.float (.finite negative quanta)).round places =
      .ok (.float (.finite negative quanta)) := by
  have most : mostPlaces < places := by
    rw [mostPlaces]
    omega
  rw [round, roundDouble, if_pos most]
  rfl

theorem round_int (value : ℤ) (places : ℕ) :
    (Number.int value).round places = .ok (.int value) := by
  rw [round, roundInteger, if_pos (Int.natCast_nonneg places)]

end Range

/-- The amount of the double nearest to so many units of the last decimal place. -/
def decimalAmount (places : ℕ) (units : ℤ) : ℚ :=
  (signed (decide (units < 0)) (nearestDecimal places units.natAbs) : ℚ) / Binary64.one

variable {places : ℕ} {number first second : Number}

theorem exists_round (kept : number.Kept) (places : ℕ) :
    ∃ rounded, number.round places = .ok rounded := by
  cases number with
  | int whole => exact ⟨_, round_int whole places⟩
  | float value =>
      cases value with
      | finite negative quanta =>
          rcases Nat.lt_or_ge 323 places with many | few
          · exact ⟨_, round_finite_of_many many negative quanta⟩
          · exact ⟨_, round_finite few kept⟩
      | infinite negative => exact ⟨_, rfl⟩
      | nan mark => exact ⟨_, rfl⟩

/-- An amount that is closest to so many units of the last place is rounded to them. -/
theorem round_of_close (few : places ≤ 323) {units : ℤ} (kept : number.Kept)
    (given : number.exact? = some amount) (close : |amount * 10 ^ places - units| < 1 / 2)
    (isDouble : ∀ whole, number = .int whole → IsKept (whole.natAbs * Binary64.one)) :
    ∃ rounded, number.round places = .ok rounded ∧
      rounded.exact? = some (decimalAmount places units) := by
  have eq_of_near {first second : ℤ} (near : |(first : ℚ) - second| < 1) : first = second := by
    have apart : |first - second| < 1 := by exact_mod_cast near
    exact sub_eq_zero.mp (Int.abs_lt_one_iff.mp apart)
  cases number with
  | int whole =>
      cases given
      have same : whole * (10 ^ places : ℕ) = units := by
        refine eq_of_near ?_
        push_cast
        exact close.trans (by norm_num)
      have spelled : signed (decide (units < 0)) units.natAbs =
          signed (decide (whole < 0)) (whole.natAbs * 10 ^ places) := by
        rw [signed_natAbs, signed_mul, signed_natAbs, same]
      have signs := signed_congr (nearestDecimal_zero places) spelled
      refine ⟨_, round_int whole places, ?_⟩
      rw [exact?_int, decimalAmount, signs, nearestDecimal_mul (isDouble whole rfl), signed_mul,
        signed_natAbs, Int.cast_mul, Int.cast_natCast, mul_div_cancel_right₀ _ unit_pos.ne']
  | float value =>
      rcases exists_finite given with ⟨negative, quanta, rfl, rfl⟩
      have same : signed negative (roundQuotient (quanta * 10 ^ places) Binary64.one) = units := by
        refine eq_of_near ((abs_sub_le _ _ _).trans_lt ((add_lt_add_of_le_of_lt
          (abs_units_sub_le places negative quanta) close).trans_le (by norm_num)))
      have signs :=
        signed_congr (nearestDecimal_zero places) (same.trans (signed_natAbs units).symm)
      refine ⟨_, round_finite few kept, ?_⟩
      rw [exact?_finite, decimalAmount, roundedQuanta, signs]

theorem round_of_many (many : 323 < places) (given : number.exact? = some amount) :
    number.round places = .ok number := by
  cases number with
  | int whole => exact round_int whole places
  | float value =>
      rcases exists_finite given with ⟨negative, quanta, rfl, _⟩
      exact round_finite_of_many many negative quanta

/-- A double that is equal to an integer is rounded to itself. -/
theorem round_of_whole (few : places ≤ 323) {whole : ℤ} {value : Binary64} (kept : value.Kept)
    (given : Number.exact? (.float value) = some (whole : ℚ)) :
    (Number.float value).round places = .ok (.float value) := by
  rcases exists_finite given with ⟨negative, quanta, rfl, same⟩
  have counted : signed negative quanta = whole * (Binary64.one : ℤ) := by
    rw [eq_div_iff unit_pos.ne'] at same
    exact_mod_cast same.symm
  have magnitude : quanta = whole.natAbs * Binary64.one := by
    rw [← natAbs_signed negative quanta, counted, Int.natAbs_mul, Int.natAbs_natCast]
  have rounded := round_finite few kept
  rw [magnitude] at kept rounded ⊢
  rwa [roundedQuanta_mul_one kept.1] at rounded

/-- Numbers of one amount are rounded to numbers of one amount. -/
theorem round_of_amount (keptFirst : first.Kept) (keptSecond : second.Kept)
    (firstGiven : first.exact? = some amount) (secondGiven : second.exact? = some amount)
    (places : ℕ) :
    ∃ rounded other result, first.round places = .ok rounded ∧ second.round places = .ok other ∧
      rounded.exact? = some result ∧ other.exact? = some result := by
  rcases Nat.lt_or_ge 323 places with many | few
  · exact ⟨first, second, amount, round_of_many many firstGiven, round_of_many many secondGiven,
      firstGiven, secondGiven⟩
  cases first with
  | int whole =>
      cases second with
      | int other =>
          exact ⟨_, _, amount, round_int whole places, round_int other places, firstGiven,
            secondGiven⟩
      | float other =>
          cases firstGiven
          exact ⟨_, _, whole, round_int whole places, round_of_whole few keptSecond secondGiven,
            rfl, secondGiven⟩
  | float value =>
      cases second with
      | int whole =>
          cases secondGiven
          exact ⟨_, _, whole, round_of_whole few keptFirst firstGiven, round_int whole places,
            firstGiven, rfl⟩
      | float other =>
          rcases exists_finite firstGiven with ⟨negative, quanta, rfl, rfl⟩
          rcases exists_finite secondGiven with ⟨otherNegative, otherQuanta, rfl, same⟩
          have signs := signed_congr (roundedQuanta_zero places) (signed_eq_of_div_eq same)
          refine ⟨_, _, _, round_finite few keptFirst, round_finite few keptSecond,
            exact?_finite .., ?_⟩
          rw [exact?_finite, signs]

/-- Equal numbers are rounded to equal numbers. -/
theorem round_congr (keptFirst : first.Kept) (keptSecond : second.Kept)
    (equal : first.equals second = true) (places : ℕ) :
    ∃ rounded other, first.round places = .ok rounded ∧ second.round places = .ok other ∧
      rounded.equals other = true := by
  rcases cases_of_equals equal with ⟨amount, firstGiven, secondGiven⟩ | ⟨negative, rfl, rfl⟩
  · rcases round_of_amount keptFirst keptSecond firstGiven secondGiven places with
      ⟨rounded, other, result, made, otherMade, given, otherGiven⟩
    refine ⟨rounded, other, made, otherMade, ?_⟩
    rw [equals_eq_decide given otherGiven]
    exact decide_eq_true rfl
  · exact ⟨_, _, rfl, rfl, equal⟩

end Number
end Metrology
