import Mathlib
import Metrology.Proofs.Ratio.LowestTerms
import Metrology.Proofs.Ratio.NameText

/-!
Ratios of two integers of either sign. A minus sign is a factor of its own, and it cancels against
another one; but a lone one stays on the side where it was written. Equal quotients are therefore
equal ratios unless they are negative and have their signs on different sides: then one is written
with a sign in front, and the other with a sign behind the stroke.
-/

namespace Metrology

/-! ## Factors with their signs -/

namespace Fraction

/-- Fractions that share no term cancel each for itself. -/
theorem cancel_times_perm {α : Type} [BEq α] [LawfulBEq α] {left right : Fraction α}
    (apart : ∀ term, left.exponent term = 0 ∨ right.exponent term = 0) :
    (left.times right).cancel.above.Perm (left.cancel.above ++ right.cancel.above) ∧
      (left.times right).cancel.below.Perm (left.cancel.below ++ right.cancel.below) := by
  constructor
  · apply List.perm_iff_count.mpr
    intro term
    have alone := apart term
    rw [List.count_append, count_above_cancel, count_above_cancel, count_above_cancel,
      exponent_times, Pi.add_apply]
    omega
  · apply List.perm_iff_count.mpr
    intro term
    have alone := apart term
    rw [List.count_append, count_below_cancel, count_below_cancel, count_below_cancel,
      exponent_times, Pi.add_apply]
    omega

/-- The minus signs of two integers. -/
def ofSigns (above below : ℤ) : Fraction ℤ :=
  ⟨if above < 0 then [-1] else [], if below < 0 then [-1] else []⟩

/-- The factors of two integers: their signs, and the prime factors of their magnitudes. -/
def ofFactors (above below : ℤ) : Fraction ℤ :=
  (ofSigns above below).times (ofPrimes above.natAbs below.natAbs)

variable {above below : ℤ}

theorem ofFactors_eq : ofFactors above below = ⟨integerFactors above, integerFactors below⟩ := by
  rw [integerFactors_eq, integerFactors_eq]
  rfl

theorem mul_pos_iff_signs (aboveNonzero : above ≠ 0) (belowNonzero : below ≠ 0) :
    0 < above * below ↔ (above < 0 ↔ below < 0) := by
  rw [mul_pos_iff]
  omega

/-- Two signs cancel, and no sign is none. -/
theorem exponent_ofSigns_of_pos (positive : 0 < above * below) :
    (ofSigns above below).exponent = 0 := by
  have nonzero := mul_ne_zero_iff.mp positive.ne'
  have signs := (mul_pos_iff_signs nonzero.1 nonzero.2).mp positive
  funext term
  simp [exponent, ofSigns, signs]

/-- No prime factor is a minus sign. -/
theorem exponent_ofSigns_or_ofPrimes (above below : ℤ) (first second : ℕ) (term : ℤ) :
    (ofSigns above below).exponent term = 0 ∨ (ofPrimes first second).exponent term = 0 := by
  by_cases minus : term = -1
  · have absent (value : ℕ) : (value.primeFactorsList.map Int.ofNat).count term = 0 := by
      apply List.count_eq_zero.mpr
      intro member
      rcases List.mem_map.mp member with ⟨prime, _, same⟩
      have positive : (prime : ℤ) = term := same
      omega
    exact .inr (by simp only [exponent, ofPrimes, absent, sub_self])
  · have absent (value : ℤ) : (if value < 0 then [(-1 : ℤ)] else []).count term = 0 := by
      apply List.count_eq_zero.mpr
      intro member
      split at member
      · exact minus (List.mem_singleton.mp member)
      · cases member
    exact .inl (by simp only [exponent, ofSigns, absent, sub_self])

/-- Quotients of the same magnitude have the same prime factors left. -/
theorem exponent_ofPrimes_eq {above below otherAbove otherBelow : ℕ} (aboveNonzero : above ≠ 0)
    (belowNonzero : below ≠ 0) (otherAboveNonzero : otherAbove ≠ 0)
    (otherBelowNonzero : otherBelow ≠ 0) (same : above * otherBelow = below * otherAbove) :
    (ofPrimes above below).exponent = (ofPrimes otherAbove otherBelow).exponent := by
  calc (ofPrimes above below).exponent
      = (ofPrimes (otherAbove * above) (otherAbove * below)).exponent :=
        (exponent_ofPrimes_mul otherAboveNonzero aboveNonzero belowNonzero).symm
    _ = (ofPrimes (above * otherAbove) (above * otherBelow)).exponent := by
        rw [same, mul_comm otherAbove above, mul_comm otherAbove below]
    _ = (ofPrimes otherAbove otherBelow).exponent :=
        exponent_ofPrimes_mul aboveNonzero otherAboveNonzero otherBelowNonzero

/-- A sign is left above when the integer above is the only negative one, and below when that is
the integer below. -/
theorem prod_cancel_ofSigns (above below : ℤ) :
    (ofSigns above below).cancel.above.prod = (if above < 0 ∧ ¬below < 0 then -1 else 1) ∧
      (ofSigns above below).cancel.below.prod = (if ¬above < 0 ∧ below < 0 then -1 else 1) := by
  unfold ofSigns
  by_cases aboveNegative : above < 0 <;> by_cases belowNegative : below < 0
  all_goals
    simp only [aboveNegative, belowNegative, if_true, if_false, not_true, not_false_eq_true,
      and_true, and_false]
    decide

/-- What is left of the factors of two integers multiplies to positive numbers with the signs that
are left. -/
theorem prod_cancel_ofFactors (aboveNonzero : above ≠ 0) (belowNonzero : below ≠ 0) :
    ∃ upper lower : ℕ, 0 < upper ∧ 0 < lower ∧
      (ofFactors above below).cancel.above.prod =
        (if above < 0 ∧ ¬below < 0 then -1 else 1) * upper ∧
      (ofFactors above below).cancel.below.prod =
        (if ¬above < 0 ∧ below < 0 then -1 else 1) * lower := by
  have abovePositive := Int.natAbs_pos.mpr aboveNonzero
  have belowPositive := Int.natAbs_pos.mpr belowNonzero
  have signs := prod_cancel_ofSigns above below
  have primes := prod_cancel_ofPrimes abovePositive belowPositive
  have separate := cancel_times_perm
    (exponent_ofSigns_or_ofPrimes above below above.natAbs below.natAbs)
  refine ⟨_, _, Nat.div_gcd_pos_of_pos_left below.natAbs abovePositive,
    Nat.div_gcd_pos_of_pos_right above.natAbs belowPositive, ?_, ?_⟩
  · rw [ofFactors, separate.1.prod_eq, List.prod_append, signs.1, primes.1]
  · rw [ofFactors, separate.2.prod_eq, List.prod_append, signs.2, primes.2]

end Fraction

/-! ## Quotients with a sign -/

/-- A negative quotient is not taken for one, however it is rounded. -/
theorem Number.not_equals_one_of_div {above below : ℤ} {quotient : Number}
    (opposite : ¬(above < 0 ↔ below < 0))
    (divided : Number.div (.int above) (.int below) = .ok quotient) :
    quotient.equals (.int 1) = false := by
  have negative : (decide (above < 0) != decide (below < 0)) = true := by
    simpa [bne_iff_ne, decide_eq_decide] using opposite
  rw [Number.div, divideIntegers, negative] at divided
  split at divided
  · cases divided
  · simp only at divided
    split at divided
    · cases divided
      rw [Bool.eq_false_iff, ne_eq, equals_one_iff, Binary64.nearest, Binary64.ofQuotient]
      split
      · simp
      · simp
    · cases divided

theorem head?_of_numeralsText {above below : ℤ} {content : String}
    (written : numeralsText above below = .ok content) :
    content.toList.head? = some '-' ↔ above < 0 := by
  rw [numeralsText] at written
  split at written
  · exact head?_of_integerText written
  · rcases Result.bind_eq_ok.mp written with ⟨first, firstWritten, others⟩
    rcases Result.bind_eq_ok.mp others with ⟨second, _, joined⟩
    cases joined
    have nonempty : first.toList ≠ [] := by
      rw [integerText] at firstWritten
      split at firstWritten
      · cases firstWritten
      · cases firstWritten
        have digits : decimalDigits above.natAbs ≠ [] := Nat.toDigits_ne_nil
        split <;> simp [digits]
    rw [← head?_of_integerText firstWritten, String.toList_append, String.toList_append,
      List.append_assoc, List.head?_append_of_ne_nil _ nonempty]

namespace Ratio

/-! ## Ratios of two integers -/

/-- The ratio that is made of two integers. -/
def ofIntegers (above below : ℤ) : Result (Ratio Number) :=
  ofTerms [.literal (.int above)] [.literal (.int below)]

variable {above below otherAbove otherBelow : ℤ} {first second : Ratio Number}

theorem ofIntegers_eq (aboveNonzero : above ≠ 0) (belowNonzero : below ≠ 0) :
    ofIntegers above below = ofParts (.ofIntegers (.ofFactors above below) .empty) := by
  have literalsAbove := Term.literals_of_ne_zero aboveNonzero
  have literalsBelow := Term.literals_of_ne_zero belowNonzero
  simp only [ofIntegers, ofTerms, Parts.ofTerms, List.flatMap_singleton, literalsAbove,
    literalsBelow, Term.names, Fraction.ofFactors_eq]
  rfl

/-- A negative ratio starts with a minus sign when the integer above is the negative one. -/
theorem head?_text_of_opposite (aboveNonzero : above ≠ 0) (belowNonzero : below ≠ 0)
    (opposite : ¬(above < 0 ↔ below < 0)) (made : ofIntegers above below = .ok first) :
    first.text.toList.head? = some '-' ↔ above < 0 := by
  have written := map_text_ofParts_nameless (.ofFactors above below)
  rw [← ofIntegers_eq aboveNonzero belowNonzero, made] at written
  rcases Fraction.prod_cancel_ofFactors aboveNonzero belowNonzero with
    ⟨upper, lower, upperPositive, lowerPositive, prodAbove, prodBelow⟩
  have negativeAbove : (Fraction.ofFactors above below).cancel.above.prod < 0 ↔ above < 0 := by
    rw [prodAbove]
    split <;> omega
  have negativeBelow : (Fraction.ofFactors above below).cancel.below.prod < 0 ↔ below < 0 := by
    rw [prodBelow]
    split <;> omega
  cases divided : Number.div (.int (Fraction.ofFactors above below).cancel.above.prod)
      (.int (Fraction.ofFactors above below).cancel.below.prod) with
  | error fault =>
      rw [fractionText_of_div_error divided] at written
      cases written
  | ok quotient =>
      have notOne : quotient.equals (.int 1) = false :=
        Number.not_equals_one_of_div (by rwa [negativeAbove, negativeBelow]) divided
      rw [fractionText_of_div divided, notOne] at written
      rw [← negativeAbove]
      exact head?_of_numeralsText written.symm

/-- Ratios of equal quotients with their signs in the same places are equal. -/
theorem equals_of_same_signs (aboveNonzero : above ≠ 0) (belowNonzero : below ≠ 0)
    (otherAboveNonzero : otherAbove ≠ 0) (otherBelowNonzero : otherBelow ≠ 0)
    (same : above * otherBelow = below * otherAbove) (made : ofIntegers above below = .ok first)
    (otherMade : ofIntegers otherAbove otherBelow = .ok second)
    (signs : (Fraction.ofSigns above below).exponent =
      (Fraction.ofSigns otherAbove otherBelow).exponent) : first.equals second = true := by
  have magnitudes : above.natAbs * otherBelow.natAbs = below.natAbs * otherAbove.natAbs := by
    rw [← Int.natAbs_mul, ← Int.natAbs_mul, same]
  have primes := Fraction.exponent_ofPrimes_eq (Int.natAbs_ne_zero.mpr aboveNonzero)
    (Int.natAbs_ne_zero.mpr belowNonzero) (Int.natAbs_ne_zero.mpr otherAboveNonzero)
    (Int.natAbs_ne_zero.mpr otherBelowNonzero) magnitudes
  have exponents : (Fraction.ofFactors above below).exponent =
      (Fraction.ofFactors otherAbove otherBelow).exponent := by
    rw [Fraction.ofFactors, Fraction.ofFactors, Fraction.exponent_times, Fraction.exponent_times,
      signs, primes]
  rw [ofIntegers_eq aboveNonzero belowNonzero] at made
  rw [ofIntegers_eq otherAboveNonzero otherBelowNonzero] at otherMade
  exact HasExponents.equals ⟨_, _, made, rfl⟩ ⟨_, _, otherMade, by rw [exponents]⟩

/-- Equal quotients have the same sign. -/
theorem mul_pos_iff_of_mul_eq (aboveNonzero : above ≠ 0) (otherBelowNonzero : otherBelow ≠ 0)
    (same : above * otherBelow = below * otherAbove) :
    0 < above * below ↔ 0 < otherAbove * otherBelow := by
  apply pos_iff_pos_of_mul_pos
  calc 0 < (above * otherBelow) * (above * otherBelow) :=
        mul_self_pos.mpr (mul_ne_zero aboveNonzero otherBelowNonzero)
    _ = (above * otherBelow) * (below * otherAbove) := by rw [← same]
    _ = (above * below) * (otherAbove * otherBelow) := by ring

/-- Ratios of equal quotients are equal when the quotients are positive, and otherwise when they
have their minus signs on the same side. -/
theorem equals_iff_of_mul_eq (aboveNonzero : above ≠ 0) (belowNonzero : below ≠ 0)
    (otherAboveNonzero : otherAbove ≠ 0) (otherBelowNonzero : otherBelow ≠ 0)
    (same : above * otherBelow = below * otherAbove) (made : ofIntegers above below = .ok first)
    (otherMade : ofIntegers otherAbove otherBelow = .ok second) :
    first.equals second = true ↔ 0 < above * below ∨ (above < 0 ↔ otherAbove < 0) := by
  have equal := equals_of_same_signs aboveNonzero belowNonzero otherAboveNonzero
    otherBelowNonzero same made otherMade
  have positive := Fraction.mul_pos_iff_signs aboveNonzero belowNonzero
  have otherPositive := Fraction.mul_pos_iff_signs otherAboveNonzero otherBelowNonzero
  have agree := mul_pos_iff_of_mul_eq aboveNonzero otherBelowNonzero same
  by_cases unsigned : 0 < above * below
  · refine iff_of_true (equal ?_) (.inl unsigned)
    rw [Fraction.exponent_ofSigns_of_pos unsigned,
      Fraction.exponent_ofSigns_of_pos (agree.mp unsigned)]
  · have opposite : ¬(above < 0 ↔ below < 0) := mt positive.mpr unsigned
    have otherOpposite : ¬(otherAbove < 0 ↔ otherBelow < 0) :=
      mt otherPositive.mpr (mt agree.mpr unsigned)
    rw [or_iff_right unsigned]
    constructor
    · intro equalTexts
      have texts : first.text = second.text := beq_iff_eq.mp equalTexts
      rw [← head?_text_of_opposite aboveNonzero belowNonzero opposite made,
        ← head?_text_of_opposite otherAboveNonzero otherBelowNonzero otherOpposite otherMade, texts]
    · intro aboveAgree
      have belowAgree : below < 0 ↔ otherBelow < 0 := by
        rw [← not_iff.mp opposite, ← not_iff.mp otherOpposite, aboveAgree]
      apply equal
      simp only [Fraction.ofSigns, aboveAgree, belowAgree]

/-- Halves of two positive or two negative integers are equal; minus a half with its sign above and
minus a half with its sign below are not. -/
theorem equals_iff_of_mul_eq_halves :
    (∃ first second, ofIntegers (-2) (-4) = .ok first ∧ ofIntegers 3 6 = .ok second ∧
        first.equals second = true) ∧
      ∃ first second, ofIntegers (-2) 4 = .ok first ∧ ofIntegers 3 (-6) = .ok second ∧
        first.equals second = false := by
  have half : ofIntegers (-2) (-4) = .ok ⟨.ofIntegers ⟨[], [2]⟩ .empty, "1/2"⟩ := by decide +kernel
  have sameHalf : ofIntegers 3 6 = .ok ⟨.ofIntegers ⟨[], [2]⟩ .empty, "1/2"⟩ := by decide +kernel
  have above : ofIntegers (-2) 4 = .ok ⟨.ofIntegers ⟨[-1], [2]⟩ .empty, "-1/2"⟩ := by decide +kernel
  have below : ofIntegers 3 (-6) = .ok ⟨.ofIntegers ⟨[], [-1, 2]⟩ .empty, "1/-2"⟩ := by
    decide +kernel
  refine ⟨⟨_, _, half, sameHalf, ?_⟩, ⟨_, _, above, below, ?_⟩⟩
  · exact (equals_iff_of_mul_eq (by decide) (by decide) (by decide) (by decide) (by decide)
      half sameHalf).mpr (by decide)
  · rw [Bool.eq_false_iff, ne_eq, equals_iff_of_mul_eq (by decide) (by decide) (by decide)
      (by decide) (by decide) above below]
    decide

/-- Minus one is written in two ways, with the sign in front or behind the stroke, and so does not
equal itself. -/
theorem minus_one_not_equals_itself :
    ((-1 : ℤ) * -1 = 1 * 1) ∧ ∃ first second, ofIntegers (-1) 1 = .ok first ∧
      ofIntegers 1 (-1) = .ok second ∧ first.text = "-1" ∧ second.text = "1/-1" ∧
      first.equals second = false := by
  refine ⟨by decide, ⟨.ofIntegers ⟨[-1], []⟩ .empty, "-1"⟩,
    ⟨.ofIntegers ⟨[], [-1]⟩ .empty, "1/-1"⟩, ?_⟩
  decide +kernel

end Ratio
end Metrology
