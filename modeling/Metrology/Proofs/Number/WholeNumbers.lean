import Mathlib
import Metrology.Proofs.Number.DecimalPlaces

/-!
Integers as doubles. An integer with at most 53 significant binary digits is a double, and any
other one is rounded to an even integer. Scaling an integer exactly and dividing by the scale
again gives the double nearest to it. Adding a half to a double that is an integer and cutting
off again gives the integer back, unless it is odd and so large that no double lies half way to
the next one.
-/

namespace Metrology

attribute [local irreducible] Binary64.one Binary64.overflowBound

/-! ## Rounding quotients -/

section Quotient

variable {numerator denominator factor whole : ℕ}

theorem roundQuotient_mul_mul (positive : 0 < factor) (numerator denominator : ℕ) :
    roundQuotient (numerator * factor) (denominator * factor) =
      roundQuotient numerator denominator := by
  have twice : 2 * (numerator % denominator * factor) = 2 * (numerator % denominator) * factor :=
    (Nat.mul_assoc ..).symm
  simp only [roundQuotient, Nat.mul_div_mul_right _ _ positive, Nat.mul_mod_mul_right, twice,
    Nat.mul_lt_mul_right positive, Nat.mul_left_inj positive.ne']

/-- A quotient is rounded to a whole number that is less than half a unit away. -/
theorem roundQuotient_of_close (positive : 0 < denominator)
    (below : 2 * (whole * denominator) < 2 * numerator + denominator)
    (above : 2 * numerator < 2 * (whole * denominator) + denominator) :
    roundQuotient numerator denominator = whole := by
  rcases roundQuotient_cases positive numerator with ⟨floor, remainder, rfl, small, cases⟩
  have compared := multiples_compare floor whole denominator
  have following := multiples_compare (floor + 1) whole denominator
  rw [Nat.succ_mul] at following
  rcases cases with ⟨more, rounded⟩ | ⟨half, rounded⟩ | ⟨less, rounded⟩
  all_goals
    rw [rounded]
    omega

/-- A quotient is rounded to an even number that is at most half a unit away. -/
theorem roundQuotient_of_even (positive : 0 < denominator) (even : whole % 2 = 0)
    (below : 2 * (whole * denominator) ≤ 2 * numerator + denominator)
    (above : 2 * numerator ≤ 2 * (whole * denominator) + denominator) :
    roundQuotient numerator denominator = whole :=
  le_antisymm ((roundQuotient_le_iff positive even).mpr above)
    ((le_roundQuotient_iff positive even).mpr below)

end Quotient

/-! ## Binary digits -/

theorem bitLength_mul_two_pow {value : ℕ} (positive : 0 < value) (shift : ℕ) :
    bitLength (value * 2 ^ shift) = bitLength value + shift := by
  apply eq_of_forall_ge_iff
  intro length
  rw [bitLength_le_iff]
  rcases Nat.lt_or_ge length shift with shorter | longer
  · have large : 2 ^ length ≤ value * 2 ^ shift :=
      (Nat.pow_le_pow_right two_pos shorter.le).trans (Nat.le_mul_of_pos_left _ positive)
    omega
  · rcases Nat.exists_eq_add_of_le' longer with ⟨more, rfl⟩
    rw [pow_add, Nat.mul_lt_mul_right (Nat.two_pow_pos shift), ← bitLength_le_iff]
    omega

namespace Binary64

theorem roundQuanta_mul_mul {factor : ℕ} (positive : 0 < factor) (numerator denominator : ℕ) :
    roundQuanta (numerator * factor) (denominator * factor) =
      roundQuanta numerator denominator := by
  rw [roundQuanta, roundQuanta, Nat.mul_div_mul_right _ _ positive, Nat.mul_right_comm denominator,
    roundQuotient_mul_mul positive]

theorem nearest_mul_mul {factor : ℕ} (positive : 0 < factor) (negative : Bool)
    (numerator denominator : ℕ) :
    nearest negative (numerator * factor) (denominator * factor) =
      nearest negative numerator denominator := by
  rw [nearest, nearest, Nat.mul_right_comm, ofQuotient, ofQuotient, roundQuanta_mul_mul positive]

theorem isKept_of_short {value : ℕ} (short : bitLength value ≤ precision) : IsKept value := by
  rw [IsKept, Nat.sub_eq_zero_of_le short, pow_zero]
  exact one_dvd value

theorem isKept_of_le {value : ℕ} (small : value ≤ 2 ^ 53) : IsKept value := by
  have whole : 2 ^ 0 ∣ value := one_dvd value
  exact isKept_of_dvd whole small

theorem roundQuanta_one_of_isKept {value : ℕ} (kept : IsKept value) :
    roundQuanta value 1 = value := by
  have whole := roundQuanta_of_isKept kept Nat.one_pos
  rwa [Nat.mul_one] at whole

theorem isKept_mul_two_pow {value shift : ℕ} : IsKept (value * 2 ^ shift) ↔ IsKept value := by
  rcases Nat.eq_zero_or_pos value with rfl | positive
  · rw [Nat.zero_mul]
  · rw [IsKept, IsKept, bitLength_mul_two_pow positive]
    rcases Nat.lt_or_ge (bitLength value) precision with short | long
    · refine iff_of_true ?_ (isKept_of_short short.le)
      exact (pow_dvd_pow 2 (by omega)).trans (dvd_mul_left ..)
    · rw [Nat.sub_add_comm long, pow_add, Nat.mul_dvd_mul_iff_right (Nat.two_pow_pos shift)]

theorem roundQuanta_mul_two_pow (value shift : ℕ) :
    roundQuanta (value * 2 ^ shift) 1 = roundQuanta value 1 * 2 ^ shift := by
  rcases Nat.lt_or_ge precision (bitLength value) with long | short
  · have positive : 0 < value := by
      by_contra zero
      rw [Nat.eq_zero_of_not_pos zero, bitLength, if_pos rfl] at long
      exact absurd long (Nat.not_lt_zero _)
    simp only [roundQuanta, Nat.div_one, Nat.one_mul, bitLength_mul_two_pow positive, Nat.pow_eq]
    rw [Nat.sub_add_comm long.le, pow_add, roundQuotient_mul_mul (Nat.two_pow_pos shift),
      Nat.mul_assoc]
  · have kept := isKept_of_short short
    rw [roundQuanta_one_of_isKept kept, roundQuanta_one_of_isKept (isKept_mul_two_pow.mpr kept)]

theorem isKept_mul_one_iff {value : ℕ} : IsKept (value * one) ↔ IsKept value := by
  rw [one_eq_two_pow rfl]
  exact isKept_mul_two_pow

theorem roundQuanta_mul_one (value : ℕ) :
    roundQuanta (value * one) 1 = roundQuanta value 1 * one := by
  rw [one_eq_two_pow rfl]
  exact roundQuanta_mul_two_pow value _

/-- A factor of an integer has no more significant digits than the integer. -/
theorem IsKept.of_mul {value factor : ℕ} (kept : IsKept (value * factor)) (positive : 0 < factor) :
    IsKept value := by
  rcases Nat.eq_zero_or_pos value with rfl | nonzero
  · exact isKept_zero
  rcases Nat.exists_eq_two_pow_mul_odd nonzero.ne' with ⟨twos, odd, isOdd, split⟩
  rcases Nat.exists_eq_two_pow_mul_odd positive.ne' with ⟨more, other, otherOdd, factored⟩
  have product : value * factor = odd * other * 2 ^ (twos + more) := by
    rw [split, factored, pow_add]
    ring
  have coprime (exponent : ℕ) : Nat.Coprime (2 ^ exponent) (odd * other) :=
    Nat.Coprime.pow_left _ (Nat.coprime_two_left.mpr (isOdd.mul otherOdd))
  have few : bitLength (value * factor) - precision ≤ twos + more := by
    have divides := kept
    rw [IsKept] at divides
    nth_rewrite 2 [product] at divides
    exact (Nat.pow_dvd_pow_iff_le_right (by decide)).mp ((coprime _).dvd_of_dvd_mul_left divides)
  have small : value * factor < 2 ^ (twos + more + precision) :=
    bitLength_le_iff.mp (by omega)
  have atLeast : 2 ^ more ≤ factor := by
    rw [factored]
    exact Nat.le_mul_of_pos_right _ otherOdd.pos
  refine isKept_of_dvd (split ▸ dvd_mul_right ..) ?_
  have scaled : value * 2 ^ more ≤ 2 ^ (twos + precision) * 2 ^ more := by
    rw [← pow_add, Nat.add_right_comm]
    exact (Nat.mul_le_mul_left value atLeast).trans small.le
  exact Nat.le_of_mul_le_mul_right scaled (Nat.two_pow_pos more)

/-! ## Integers that are doubles -/

/-- Integers with at most 53 significant binary digits that are in range. -/
def IsExact (value : ℤ) : Prop := IsKept value.natAbs ∧ value.natAbs < 2 ^ 1024

instance (quanta : ℕ) : Decidable (IsKept quanta) := inferInstanceAs (Decidable (_ ∣ _))

instance (value : ℤ) : Decidable (IsExact value) := inferInstanceAs (Decidable (_ ∧ _))

/-- The double that an integer is. -/
def ofWhole (value : ℤ) : Binary64 := .finite (decide (value < 0)) (value.natAbs * one)

variable {value whole : ℤ}

theorem overflowBound_eq : overflowBound = 2 ^ 1024 * one := by decide +kernel

/-- Integers of up to 53 binary digits are doubles. -/
theorem isExact_of_le (small : value.natAbs ≤ 2 ^ 53) : IsExact value := by
  refine ⟨isKept_of_le small, lt_of_le_of_lt small ?_⟩
  gcongr <;> decide

theorem mul_one_lt_overflowBound_iff {value : ℕ} :
    value * one < overflowBound ↔ value < 2 ^ 1024 := by
  rw [overflowBound_eq, Nat.mul_lt_mul_right one_pos]

theorem IsExact.of_mul {factor : ℕ} (exact : IsExact (value * factor)) (positive : 0 < factor) :
    IsExact value := by
  have product : (value * factor).natAbs = value.natAbs * factor := by
    rw [Int.natAbs_mul, Int.natAbs_natCast]
  rw [IsExact, product] at exact
  exact ⟨exact.1.of_mul positive, (Nat.le_mul_of_pos_right _ positive).trans_lt exact.2⟩

theorem decide_mul_neg (value : ℤ) {factor : ℤ} (positive : 0 < factor) :
    decide (value * factor < 0) = decide (value < 0) := by
  refine decide_eq_decide.mpr ⟨fun less => ?_, fun less => mul_neg_of_neg_of_pos less positive⟩
  exact neg_of_mul_neg_left less positive.le

theorem ofInt_eq_nearest (value : ℤ) :
    ofInt value = nearest (decide (value < 0)) value.natAbs 1 := by
  have positive : (0 : ℤ) < one := by exact_mod_cast one_pos
  rw [ofInt, ofQuanta]
  split
  · next zero =>
      have none : value = 0 := (Int.mul_eq_zero.mp zero).resolve_right positive.ne'
      rw [none]
      decide +kernel
  · rw [nearest, decide_mul_neg value positive, Int.natAbs_mul, Int.natAbs_natCast]

theorem ofInt_of_isExact (exact : IsExact value) : ofInt value = ofWhole value := by
  rw [ofInt_eq_nearest, nearest, ofQuotient, roundQuanta_mul_one, roundQuanta_one_of_isKept exact.1]
  exact if_pos (mul_one_lt_overflowBound_iff.mpr exact.2)

theorem toDouble_of_isExact (exact : IsExact value) :
    (Number.int value).toDouble = .ok (ofWhole value) := by
  rw [Number.toDouble, ofInt_of_isExact exact]
  rfl

theorem exact?_ofWhole (value : ℤ) : Number.exact? (.float (ofWhole value)) = some (value : ℚ) := by
  rw [ofWhole, Number.exact?_finite, signed_mul, signed_natAbs, Int.cast_mul, Int.cast_natCast,
    mul_div_cancel_right₀ _ unit_pos.ne']

theorem ofWhole_signed {negative : Bool} {magnitude : ℕ} (positive : 0 < magnitude) :
    ofWhole (signed negative magnitude) = .finite negative (magnitude * one) := by
  have sign : decide (signed negative magnitude < 0) = negative := by
    cases negative with
    | false => simp [signed]
    | true => simpa [signed] using positive
  rw [ofWhole, sign, Number.natAbs_signed]

/-- A double that is equal to an integer is that integer, up to the sign of zero. -/
theorem eq_ofWhole_of_equals {double : Binary64} (kept : double.Kept)
    (equal : (Number.float double).equals (.int value) = true) :
    IsExact value ∧ (value ≠ 0 → double = ofWhole value) := by
  rcases Number.cases_of_equals equal with ⟨amount, given, same⟩ | ⟨_, _, infinite⟩
  · cases same
    rcases Number.exists_finite given with ⟨negative, quanta, rfl, counted⟩
    rw [eq_div_iff unit_pos.ne'] at counted
    have total : signed negative quanta = value * (one : ℤ) := by exact_mod_cast counted.symm
    have magnitude : quanta = value.natAbs * one := by
      rw [← Number.natAbs_signed negative quanta, total, Int.natAbs_mul, Int.natAbs_natCast]
    subst magnitude
    refine ⟨⟨isKept_mul_one_iff.mp kept.1, mul_one_lt_overflowBound_iff.mp kept.2⟩, ?_⟩
    intro nonzero
    have unit : (one : ℤ) ≠ 0 := by exact_mod_cast one_pos.ne'
    have whole : signed negative value.natAbs = value := by
      rw [signed_mul] at total
      exact mul_right_cancel₀ unit total
    rw [← ofWhole_signed (Int.natAbs_pos.mpr nonzero), whole]
  · cases infinite

theorem equals_ofWhole (value : ℤ) :
    (Number.float (ofWhole value)).equals (.int value) = true := by
  rw [Number.equals_eq_decide (exact?_ofWhole value) (Number.exact?_int value)]
  exact decide_eq_true rfl

/-- An integer is a double when the double nearest to it is equal to it. -/
theorem isExact_iff :
    (∃ double, (Number.int value).toDouble = .ok double ∧
      (Number.float double).equals (.int value) = true) ↔ IsExact value := by
  constructor
  · rintro ⟨double, made, equal⟩
    have kept : double.Kept := by
      rw [Number.toDouble] at made
      split at made
      · cases made
        exact kept_ofQuanta _ _
      · cases made
    exact (eq_ofWhole_of_equals kept equal).1
  · intro exact
    exact ⟨_, toDouble_of_isExact exact, equals_ofWhole value⟩

/-- The double nearest to an integer is an integer: the same one if that is a double, and else
an even one. -/
theorem exists_nearest_whole (inRange : (ofInt value).isFinite = true) :
    ∃ whole, ofInt value = ofWhole whole ∧ IsExact whole ∧
      (whole = value ∨ 2 ∣ whole ∧ ¬IsExact value) := by
  by_cases exact : IsExact value
  · exact ⟨value, ofInt_of_isExact exact, exact, .inl rfl⟩
  · rw [ofInt_eq_nearest, nearest, ofQuotient, roundQuanta_mul_one] at inRange ⊢
    split at inRange
    · next bounded =>
        have long : precision < bitLength value.natAbs := by
          by_contra short
          have kept := isKept_of_short (not_lt.mp short)
          rw [roundQuanta_one_of_isKept kept, mul_one_lt_overflowBound_iff] at bounded
          exact exact ⟨kept, bounded⟩
        rcases Nat.exists_eq_add_of_lt long with ⟨more, digits⟩
        have length : bitLength (value.natAbs / 1) = more + 1 + 53 := by
          rw [Nat.div_one, digits, precision]
          omega
        have positive := (Nat.two_pow_pos _).trans_le (two_pow_le_roundQuanta Nat.one_pos length)
        have even : 2 ∣ roundQuanta value.natAbs 1 := by
          rw [roundQuanta_eq length, pow_succ]
          exact dvd_mul_of_dvd_right (dvd_mul_left ..) _
        refine ⟨signed (decide (value < 0)) (roundQuanta value.natAbs 1), ?_, ⟨?_, ?_⟩,
          .inr ⟨?_, exact⟩⟩
        · rw [ofWhole_signed positive]
          exact if_pos bounded
        · rw [Number.natAbs_signed]
          exact isKept_roundQuanta Nat.one_pos _
        · rw [Number.natAbs_signed]
          exact mul_one_lt_overflowBound_iff.mp bounded
        · rw [← Int.natAbs_dvd_natAbs, Number.natAbs_signed]
          exact even
    · cases inRange

/-! ## Doubles beside an integer -/

/-- Doubles lie apart by more than the 2⁵³-th part of the lesser one. -/
theorem lt_gap_of_isKept {lesser greater : ℕ} (lesserKept : IsKept lesser)
    (greaterKept : IsKept greater) (less : lesser < greater) :
    lesser < (greater - lesser) * 2 ^ 53 := by
  have longer : bitLength lesser ≤ bitLength greater :=
    bitLength_le_iff.mpr (less.trans (bitLength_le_iff.mp le_rfl))
  have divides : 2 ^ (bitLength lesser - precision) ∣ greater - lesser :=
    Nat.dvd_sub ((pow_dvd_pow 2 (Nat.sub_le_sub_right longer _)).trans greaterKept) lesserKept
  calc lesser < 2 ^ bitLength lesser := bitLength_le_iff.mp le_rfl
    _ ≤ 2 ^ (bitLength lesser - precision + 53) :=
      Nat.pow_le_pow_right two_pos (by rw [precision]; omega)
    _ = 2 ^ (bitLength lesser - precision) * 2 ^ 53 := pow_add ..
    _ ≤ (greater - lesser) * 2 ^ 53 :=
      Nat.mul_le_mul_right _ (Nat.le_of_dvd (Nat.sub_pos_of_lt less) divides)

/-- From 2⁵³ on all doubles are integers. -/
theorem one_dvd_of_isKept {quanta : ℕ} (kept : IsKept quanta) (large : 2 ^ 53 * one ≤ quanta) :
    one ∣ quanta := by
  rw [one_eq_two_pow rfl] at large ⊢
  have long : 53 + 1074 < bitLength quanta := by
    by_contra short
    have bounded := bitLength_le_iff.mp (not_lt.mp short)
    rw [pow_add] at bounded
    exact absurd large (not_le.mpr bounded)
  exact (pow_dvd_pow 2 (by rw [precision]; omega)).trans kept

/-- A double whose multiple is rounded to that of an integer is the integer, when the multiples
are even and too large for doubles to lie between them. -/
theorem eq_mul_one_of_roundQuotient {quanta value factor : ℕ} (kept : IsKept quanta)
    (even : 2 ∣ factor) (large : 2 ^ 53 < value * factor)
    (rounded : roundQuotient (quanta * factor) one = value * factor) : quanta = value * one := by
  have positive : 0 < factor := Nat.pos_of_mul_pos_left ((Nat.zero_le _).trans_lt large)
  have unit := one_pos
  have parity : value * factor % 2 = 0 := Nat.mod_eq_zero_of_dvd (even.mul_left value)
  have below := (le_roundQuotient_iff one_pos parity).mp rounded.ge
  have above := (roundQuotient_le_iff one_pos parity).mp rounded.le
  rw [Nat.mul_right_comm value factor] at below above
  have lower : 2 * ((value * one - quanta) * factor) ≤ one := by
    rw [Nat.sub_mul]
    omega
  have upper : 2 * ((quanta - value * one) * factor) ≤ one := by
    rw [Nat.sub_mul]
    omega
  rcases Nat.lt_or_ge (2 ^ 53) value with beyond | within
  · have lowerGap := Nat.le_mul_of_pos_right (value * one - quanta) positive
    have upperGap := Nat.le_mul_of_pos_right (quanta - value * one) positive
    have reached : (2 ^ 53 + 1) * one ≤ value * one := Nat.mul_le_mul_right one beyond
    rcases one_dvd_of_isKept kept (by omega) with ⟨whole, rfl⟩
    rw [Nat.mul_comm one] at lowerGap upperGap ⊢
    rcases Nat.lt_trichotomy whole value with less | rfl | greater
    · have apart : (whole + 1) * one ≤ value * one := Nat.mul_le_mul_right one less
      rw [Nat.mul_comm one] at lower
      rw [Nat.succ_mul] at apart
      omega
    · rfl
    · have apart : (value + 1) * one ≤ whole * one := Nat.mul_le_mul_right one greater
      rw [Nat.mul_comm one] at upper
      rw [Nat.succ_mul] at apart
      omega
  · have near {gap : ℕ} (small : 2 * (gap * factor) ≤ one) : gap * 2 ^ 54 < value * one := by
      refine Nat.lt_of_mul_lt_mul_right (a := factor) ?_
      calc gap * 2 ^ 54 * factor = 2 ^ 53 * (2 * (gap * factor)) := by ring
        _ ≤ 2 ^ 53 * one := Nat.mul_le_mul_left _ small
        _ < value * factor * one := Nat.mul_lt_mul_of_pos_right large one_pos
        _ = value * one * factor := Nat.mul_right_comm ..
    have wholeKept : IsKept (value * one) := isKept_mul_one_iff.mpr (isKept_of_le within)
    have lowerGap := near lower
    have upperGap := near upper
    rcases Nat.lt_trichotomy quanta (value * one) with less | same | greater
    · have gap := lt_gap_of_isKept kept wholeKept less
      omega
    · exact same
    · have gap := lt_gap_of_isKept wholeKept kept greater
      omega

/-! ## Scaling and dividing back -/

theorem divideIntegers_mul (value : ℤ) {scale : ℕ} (positive : 0 < scale) :
    Number.divideIntegers (value * scale) scale =
      (do return .float (← (Number.int value).toDouble)) := by
  have cast : (0 : ℤ) < scale := by exact_mod_cast positive
  have sign : (decide (value * (scale : ℤ) < 0) != decide ((scale : ℤ) < 0)) =
      decide (value < 0) := by
    rw [decide_eq_false cast.not_gt, Bool.bne_false, decide_mul_neg value cast]
  have same : nearest (decide (value < 0)) (value.natAbs * scale) scale = ofInt value := by
    have whole := nearest_mul_mul positive (decide (value < 0)) value.natAbs 1
    rwa [Nat.one_mul, ← ofInt_eq_nearest] at whole
  rw [Number.divideIntegers, if_neg cast.ne', sign, Int.natAbs_mul, Int.natAbs_natCast, same,
    Number.toDouble]
  dsimp only
  split <;> rfl

theorem exists_finite_of_divideIntegers {left right : ℤ} {quotient : Number}
    (made : Number.divideIntegers left right = .ok quotient) :
    ∃ negative quanta, quotient = .float (.finite negative quanta) ∧
      (Binary64.finite negative quanta).Kept := by
  rw [Number.divideIntegers] at made
  split at made
  · cases made
  · next nonzero =>
      dsimp only at made
      split at made
      · next inRange =>
          cases made
          rw [nearest, ofQuotient] at inRange ⊢
          split at inRange
          · next bounded =>
              rw [if_pos bounded]
              exact ⟨_, _, rfl, isKept_roundQuanta (Int.natAbs_pos.mpr nonzero) _, bounded⟩
          · cases inRange
      · cases made

/-! ## Rounding half up -/

/-- An odd number next to the double of an even one that has 53 significant digits at most is
rounded to that. -/
theorem roundQuanta_of_odd {even odd : ℕ} (kept : IsKept even) (isEven : 2 ∣ even)
    (near : odd = 2 * even + 1 ∨ odd + 1 = 2 * even) (long : 2 ^ 53 < odd) :
    roundQuanta odd 1 = 2 * even := by
  have longer : 53 < bitLength odd := by
    by_contra short
    have bounded := bitLength_le_iff.mp (not_lt.mp short)
    omega
  rcases Nat.exists_eq_add_of_lt longer with ⟨excess, digits⟩
  have length : bitLength (odd / 1) = excess + 1 + 53 := by
    rw [Nat.div_one, digits]
    omega
  have power : 2 ^ (excess + 53) ≤ odd := two_pow_le_of_lt_bitLength (by omega)
  have doubled : 2 ^ (excess + 53) = 2 * 2 ^ (excess + 52) := pow_succ' 2 (excess + 52)
  have long : excess + 52 < bitLength even := by
    by_contra short
    have bounded := bitLength_le_iff.mp (not_lt.mp short)
    omega
  have divides : 2 ^ excess ∣ even := by
    have digits : excess ≤ bitLength even - precision := by
      rw [precision]
      omega
    exact (pow_dvd_pow 2 digits).trans kept
  rcases divides with ⟨count, split⟩
  have unit : 0 < 2 ^ (excess + 1) := Nat.two_pow_pos _
  have total : 2 * even = count * 2 ^ (excess + 1) := by
    rw [split, pow_succ]
    ring
  have rounded : roundQuotient odd (2 ^ (excess + 1)) = count := by
    cases excess with
    | zero =>
        rw [pow_zero, Nat.one_mul] at split
        subst split
        exact roundQuotient_of_even unit (Nat.mod_eq_zero_of_dvd isEven) (by omega) (by omega)
    | succ excess =>
        have atLeast : 2 ^ (excess + 1 + 1) = 4 * 2 ^ excess := by ring
        have one : 0 < 2 ^ excess := Nat.two_pow_pos _
        exact roundQuotient_of_close unit (by omega) (by omega)
  rw [roundQuanta_eq length, Nat.one_mul, rounded, total]

/-- What becomes of an integer that is a double when a half is added to it and cut off again:
an odd integer that is so large that there is no half of one beside it goes up. -/
def halfUp (whole : ℤ) : ℤ :=
  if 2 ∣ whole ∨ whole.natAbs ≤ 2 ^ 52 then whole else whole + 1

theorem natAbs_lt_of_odd (exact : IsExact whole) (odd : ¬2 ∣ whole) : whole.natAbs < 2 ^ 53 := by
  rw [← bitLength_le_iff]
  by_contra long
  have twos : 2 ∣ 2 ^ (bitLength whole.natAbs - precision) :=
    dvd_pow_self 2 (by rw [precision]; omega)
  exact odd (Int.natAbs_dvd_natAbs.mp (twos.trans exact.1))

theorem isExact_halfUp (exact : IsExact whole) : IsExact (halfUp whole) := by
  rw [halfUp]
  split
  · exact exact
  · next large =>
      have bounded := natAbs_lt_of_odd exact (not_or.mp large).1
      have small : (whole + 1).natAbs ≤ 2 ^ 53 := by omega
      exact isExact_of_le small

theorem one_eq_two_mul : one = 2 * (one / 2) := by decide +kernel

theorem half_one_pos : 0 < one / 2 := by decide +kernel

theorem roundQuanta_mul_half (value : ℕ) :
    roundQuanta (value * (one / 2)) 1 = roundQuanta value 1 * (one / 2) := by
  have power : one / 2 = 2 ^ 1073 := by
    rw [one_eq_two_pow rfl, pow_succ, Nat.mul_div_cancel _ two_pos]
  rw [power]
  exact roundQuanta_mul_two_pow value _

theorem cast_one_eq : (one : ℤ) = 2 * (one / 2 : ℕ) := by exact_mod_cast one_eq_two_mul

theorem add_half (whole : ℤ) :
    (ofWhole whole).add half = ofQuanta false ((2 * whole + 1) * (one / 2 : ℕ)) := by
  have positive : signed false (one / 2) = (one / 2 : ℕ) := rfl
  have total : signed (decide (whole < 0)) (whole.natAbs * one) + signed false (one / 2) =
      (2 * whole + 1) * (one / 2 : ℕ) := by
    rw [signed_mul, signed_natAbs, cast_one_eq, positive]
    ring
  rw [ofWhole, half, add, Bool.and_false, total]

/-- Half an integer is cut off to the whole one below it. -/
theorem floor_halves {negative : Bool} {halves : ℕ}
    (counted : signed negative halves = 2 * whole ∨ signed negative halves = 2 * whole + 1) :
    (Number.float (.finite negative (halves * (one / 2)))).floor = .ok whole := by
  have positive : (0 : ℤ) < (one / 2 : ℕ) := by exact_mod_cast half_one_pos
  have quotient : signed negative halves / 2 = whole := by omega
  rw [Number.floor, signed_mul, cast_one_eq, Int.fdiv_eq_ediv_of_nonneg _ (by omega),
    Int.mul_ediv_mul_of_pos_left _ _ positive, quotient]

theorem add_half_of_rounded {rounded : ℕ}
    (nearest : roundQuanta (2 * whole + 1).natAbs 1 = rounded)
    (inRange : rounded * (one / 2) < overflowBound) :
    (ofWhole whole).add half = .finite (decide (2 * whole + 1 < 0)) (rounded * (one / 2)) := by
  have positive : (0 : ℤ) < (one / 2 : ℕ) := by exact_mod_cast half_one_pos
  have nonzero : (2 * whole + 1) * ((one / 2 : ℕ) : ℤ) ≠ 0 := mul_ne_zero (by omega) positive.ne'
  have sign : decide ((2 * whole + 1) * ((one / 2 : ℕ) : ℤ) < 0) = decide (2 * whole + 1 < 0) :=
    decide_mul_neg _ positive
  have quanta : roundQuanta ((2 * whole + 1) * ((one / 2 : ℕ) : ℤ)).natAbs 1 =
      rounded * (one / 2) := by
    rw [Int.natAbs_mul, Int.natAbs_natCast, roundQuanta_mul_half, nearest]
  rw [add_half, ofQuanta, if_neg nonzero, ofQuotient, quanta, sign]
  exact if_pos inRange

theorem floor_add_half (exact : IsExact whole) :
    (Number.float ((ofWhole whole).add half)).floor = .ok (halfUp whole) := by
  rcases Nat.lt_or_ge (2 ^ 53) (2 * whole + 1).natAbs with long | short
  · have up := isExact_halfUp exact
    have nearby : 2 * whole + 1 = 2 * halfUp whole + 1 ∨ 2 * whole + 1 = 2 * halfUp whole - 1 := by
      rw [halfUp]
      split <;> omega
    have even : 2 ∣ halfUp whole := by
      rw [halfUp]
      split <;> omega
    have rounded := roundQuanta_of_odd up.1 (Int.natAbs_dvd_natAbs.mpr even) (by omega) long
    have inRange : 2 * (halfUp whole).natAbs * (one / 2) < overflowBound := by
      rw [Nat.mul_right_comm, ← one_eq_two_mul, Nat.mul_comm]
      exact mul_one_lt_overflowBound_iff.mpr up.2
    rw [add_half_of_rounded rounded inRange]
    have counted : signed (decide (2 * whole + 1 < 0)) (2 * (halfUp whole).natAbs) =
        2 * halfUp whole := by
      rw [signed]
      split
      · next negative =>
          have below := of_decide_eq_true negative
          omega
      · next notNegative =>
          have atLeast := mt decide_eq_true notNegative
          omega
    exact floor_halves (.inl counted)
  · have kept : roundQuanta (2 * whole + 1).natAbs 1 = (2 * whole + 1).natAbs :=
      roundQuanta_one_of_isKept (isKept_of_le short)
    have inRange : (2 * whole + 1).natAbs * (one / 2) < overflowBound := by
      have atMost : (2 * whole + 1).natAbs * (one / 2) ≤ (2 * whole + 1).natAbs * one :=
        Nat.mul_le_mul_left _ (Nat.div_le_self one 2)
      exact atMost.trans_lt (mul_one_lt_overflowBound_iff.mpr (isExact_of_le short).2)
    have same : halfUp whole = whole := if_pos (by omega)
    rw [add_half_of_rounded kept inRange, same]
    exact floor_halves (.inr (signed_natAbs _))

end Binary64

end Metrology
