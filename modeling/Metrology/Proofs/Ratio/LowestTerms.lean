import Mathlib
import Metrology.Proofs.Number.IntegerText
import Metrology.Proofs.Number.PrimeFactors
import Metrology.Proofs.Number.Rounding
import Metrology.Proofs.Ratio.Exponents

/-!
Ratios of two positive integers. Their prime factors cancel down to those of the fraction in
lowest terms, and that fraction is what is written. Whether the ratio is one is however asked
of the quotient as a double: a quotient that is too large for a double is a fault, and one
that is merely nearly one is taken for one.
-/

namespace Metrology

/-! ## Cancelling prime factors -/

namespace Fraction

theorem cancel_perm_of_disjoint {α : Type} [BEq α] [LawfulBEq α] {fraction : Fraction α}
    (disjoint : fraction.above.Disjoint fraction.below) :
    fraction.cancel.above.Perm fraction.above ∧ fraction.cancel.below.Perm fraction.below := by
  have apart (term : α) : fraction.above.count term = 0 ∨ fraction.below.count term = 0 := by
    by_cases member : term ∈ fraction.above
    · exact .inr (List.count_eq_zero.mpr (disjoint member))
    · exact .inl (List.count_eq_zero.mpr member)
  constructor
  · apply List.perm_iff_count.mpr
    intro term
    have alone := apart term
    rw [count_above_cancel, exponent]
    omega
  · apply List.perm_iff_count.mpr
    intro term
    have alone := apart term
    rw [count_below_cancel, exponent]
    omega

/-- The prime factors of two naturals. -/
def ofPrimes (above below : ℕ) : Fraction ℤ :=
  ⟨above.primeFactorsList.map Int.ofNat, below.primeFactorsList.map Int.ofNat⟩

variable {above below : ℕ}

theorem exponent_ofPrimes_mul {common : ℕ} (nonzero : common ≠ 0) (aboveNonzero : above ≠ 0)
    (belowNonzero : below ≠ 0) :
    (ofPrimes (common * above) (common * below)).exponent = (ofPrimes above below).exponent := by
  have factorsAbove := (Nat.perm_primeFactorsList_mul nonzero aboveNonzero).map Int.ofNat
  have factorsBelow := (Nat.perm_primeFactorsList_mul nonzero belowNonzero).map Int.ofNat
  funext term
  simp only [exponent, ofPrimes, factorsAbove.count_eq, factorsBelow.count_eq, List.map_append,
    List.count_append, Nat.cast_add]
  ring

theorem prod_map_ofNat_primeFactorsList {value : ℕ} (nonzero : value ≠ 0) :
    (value.primeFactorsList.map Int.ofNat).prod = value := by
  have product := map_list_prod (Nat.castRingHom ℤ) value.primeFactorsList
  rw [Nat.prod_primeFactorsList nonzero] at product
  exact product.symm

theorem prod_cancel_ofPrimes_of_coprime (coprime : above.Coprime below) (aboveNonzero : above ≠ 0)
    (belowNonzero : below ≠ 0) :
    (ofPrimes above below).cancel.above.prod = above ∧
      (ofPrimes above below).cancel.below.prod = below := by
  have disjoint : (ofPrimes above below).above.Disjoint (ofPrimes above below).below :=
    List.disjoint_map Int.ofNat_injective (Nat.coprime_primeFactorsList_disjoint coprime)
  have kept := cancel_perm_of_disjoint disjoint
  exact ⟨kept.1.prod_eq.trans (prod_map_ofNat_primeFactorsList aboveNonzero),
    kept.2.prod_eq.trans (prod_map_ofNat_primeFactorsList belowNonzero)⟩

/-- What is left of the prime factors of two naturals multiplies to the fraction in lowest
terms. -/
theorem prod_cancel_ofPrimes (abovePositive : 0 < above) (belowPositive : 0 < below) :
    (ofPrimes above below).cancel.above.prod = (above / above.gcd below : ℕ) ∧
      (ofPrimes above below).cancel.below.prod = (below / above.gcd below : ℕ) := by
  have common : 0 < above.gcd below := Nat.gcd_pos_of_pos_left below abovePositive
  have reducedAbove : above.gcd below * (above / above.gcd below) = above :=
    Nat.mul_div_cancel' (Nat.gcd_dvd_left above below)
  have reducedBelow : above.gcd below * (below / above.gcd below) = below :=
    Nat.mul_div_cancel' (Nat.gcd_dvd_right above below)
  have aboveNonzero := (Nat.div_gcd_pos_of_pos_left below abovePositive).ne'
  have belowNonzero := (Nat.div_gcd_pos_of_pos_right above belowPositive).ne'
  have same : (ofPrimes above below).exponent =
      (ofPrimes (above / above.gcd below) (below / above.gcd below)).exponent := by
    rw [← exponent_ofPrimes_mul common.ne' aboveNonzero belowNonzero, reducedAbove, reducedBelow]
  have reduced := prod_cancel_ofPrimes_of_coprime (Nat.coprime_div_gcd_div_gcd common)
    aboveNonzero belowNonzero
  rw [(above_cancel_perm same).prod_eq, (below_cancel_perm same).prod_eq]
  exact reduced

end Fraction

/-! ## Integers as terms -/

theorem Term.literals_of_ne_zero {value : ℤ} (nonzero : value ≠ 0) :
    (Term.literal (.int value) : Term Number).literals =
      (integerFactors value).map Number.int := by
  have factors : Number.factors (.int value) = (integerFactors value).map Number.int := by
    rw [Number.factors, Number.normalize]
    dsimp only
    rw [if_neg nonzero]
  have kept : (Number.factors (.int value)).filter (fun factor => !(factor == .int 1)) =
      Number.factors (.int value) := by
    apply List.filter_eq_self.mpr
    intro factor member
    have prime := Number.isPrimeFactor_of_mem_factors member
    rcases prime.exists_int with ⟨amount, rfl⟩
    have notOne : amount ≠ 1 := fun one => prime.ne_one (congrArg Number.int one)
    rw [Number.int_beq_int]
    simpa using notOne
  rw [← factors]
  exact kept

theorem Term.literals_of_positive {value : ℕ} (positive : 0 < value) :
    (Term.literal (.int value) : Term Number).literals =
      (value.primeFactorsList.map Int.ofNat).map Number.int := by
  have unsigned : ¬(value : ℤ) < 0 := by omega
  rw [literals_of_ne_zero (by omega), integerFactors_eq, if_neg unsigned, List.nil_append,
    Int.natAbs_natCast]

theorem Parts.ofTerms_positive {above below : ℕ} (abovePositive : 0 < above)
    (belowPositive : 0 < below) :
    Parts.ofTerms [.literal (.int above)] [.literal (.int below)] =
      .ofIntegers (.ofPrimes above below) .empty := by
  have literalsAbove := Term.literals_of_positive abovePositive
  have literalsBelow := Term.literals_of_positive belowPositive
  simp only [Parts.ofTerms, List.flatMap_singleton, literalsAbove, literalsBelow, Term.names]
  rfl

/-! ## The text -/

namespace Number

theorem equals_one_iff {value : Binary64} :
    (float value).equals (.int 1) = true ↔ value = .finite false Binary64.one := by
  have positive := Binary64.one_pos
  cases value with
  | nan mark => simp [equals, compare?, Binary64.compareInt?]
  | infinite negative =>
      cases negative with
      | false => simp [equals, compare?, Binary64.compareInt?]
      | true => simp [equals, compare?, Binary64.compareInt?]
  | finite negative quanta =>
      have compared : (float (.finite negative quanta)).equals (.int 1) = true ↔
          (Binary64.one : ℤ) = Binary64.signed negative quanta := by
        simp only [equals, compare?, Binary64.compareInt?, Option.map_some, one_mul, beq_iff_eq,
          Option.some.injEq, Ordering.swap_eq_eq, compare_eq_iff_eq]
      rw [compared]
      generalize Binary64.one = unit at positive
      cases negative with
      | false =>
          have same : Binary64.signed false quanta = quanta := rfl
          rw [same, Nat.cast_inj, Binary64.finite.injEq, and_iff_right rfl, eq_comm]
      | true =>
          have negated : Binary64.signed true quanta = -(quanta : ℤ) := rfl
          simp only [negated, Binary64.finite.injEq, Bool.true_eq_false, false_and, iff_false]
          omega

theorem div_natCast (above : ℕ) {below : ℕ} (positive : 0 < below) :
    div (.int above) (.int below) =
      if Binary64.IsTooLarge above below then .error .overflow
      else .ok (.float (.nearest false above below)) := by
  have nonzero : (below : ℤ) ≠ 0 := by omega
  have aboveUnsigned : decide ((above : ℤ) < 0) = false := decide_eq_false (by omega)
  have belowUnsigned : decide ((below : ℤ) < 0) = false := decide_eq_false (by omega)
  rw [div, divideIntegers, if_neg nonzero, aboveUnsigned, belowUnsigned, bne_self_eq_false,
    Int.natAbs_natCast, Int.natAbs_natCast]
  by_cases large : Binary64.IsTooLarge above below
  · have infinite : ¬(Binary64.nearest false above below).isFinite = true := by
      rw [Binary64.isFinite_nearest positive]
      exact not_not.mpr large
    rw [if_pos large]
    exact if_neg infinite
  · rw [if_neg large]
    exact if_pos ((Binary64.isFinite_nearest positive).mpr large)

end Number

/-! ## The text of a fraction -/

section Text

variable {fraction : Fraction ℤ}

/-- The two numerals of a fraction, or the one of a whole number. -/
def numeralsText (above below : ℤ) : Result String :=
  if below = 1 then integerText above
  else do return (← integerText above) ++ "/" ++ (← integerText below)

/-- A fraction of integers is written as its numerals, unless its quotient comes to one. -/
theorem fractionText_of_div {quotient : Number}
    (divided : Number.div (.int fraction.above.prod) (.int fraction.below.prod) = .ok quotient) :
    Literal.fractionText (fraction.map Number.int) =
      if quotient.equals (.int 1) = true then .ok ""
      else numeralsText fraction.above.prod fraction.below.prod := by
  have division : Arithmetic.div (Number.int fraction.above.prod) (.int fraction.below.prod) =
    .ok quotient := divided
  have whole : (Number.int fraction.below.prod).equals (.int 1) = true ↔
      fraction.below.prod = 1 := by
    have integers : (Number.int fraction.below.prod).equals (.int 1) =
      (fraction.below.prod == 1) := Number.int_beq_int _ 1
    rw [integers, beq_iff_eq]
  change quotientText Number.normalize (fraction.map Number.int) = _
  rw [quotientText, Fraction.map, product_int, product_int]
  simp only [Result.ok_bind, division]
  rw [numeralsText, ← if_congr whole rfl rfl]
  rfl

theorem fractionText_of_div_error {fault : Fault}
    (divided : Number.div (.int fraction.above.prod) (.int fraction.below.prod) = .error fault) :
    Literal.fractionText (fraction.map Number.int) = .error fault := by
  have division : Arithmetic.div (Number.int fraction.above.prod) (.int fraction.below.prod) =
    .error fault := divided
  change quotientText Number.normalize (fraction.map Number.int) = _
  rw [quotientText, Fraction.map, product_int, product_int]
  simp only [Result.ok_bind, division]
  rfl

end Text

namespace Ratio

/-! ## Ratios of two integers -/

/-- The ratio that is made of two naturals. -/
def ofNaturals (above below : ℕ) : Result (Ratio Number) :=
  ofTerms [.literal (.int above)] [.literal (.int below)]

/-- The fraction of two naturals in lowest terms, written out; nothing for one. -/
def lowestTerms (above below : ℕ) : String :=
  let common := above.gcd below
  if above = below then ""
  else if below / common = 1 then toString (above / common)
  else toString (above / common) ++ "/" ++ toString (below / common)

theorem toString_ne_empty (value : ℕ) : toString value ≠ "" := by
  intro blank
  have digits : (toString value).toList = decimalDigits value := Nat.toList_repr
  rw [blank] at digits
  exact Nat.toDigits_ne_nil digits.symm

theorem lowestTerms_eq_empty_iff {above below : ℕ} :
    lowestTerms above below = "" ↔ above = below := by
  constructor
  · intro blank
    by_contra different
    rw [lowestTerms, if_neg different] at blank
    split at blank
    · exact toString_ne_empty _ blank
    · simp [String.append_eq_empty_iff] at blank
  · intro same
    rw [lowestTerms, if_pos same]

section Construction

variable {construction : Result (Ratio Number)}

theorem exists_of_map_text {content : String}
    (written : construction.map Ratio.text = .ok content) :
    ∃ ratio, construction = .ok ratio ∧ ratio.text = content := by
  cases construction with
  | ok ratio => exact ⟨ratio, rfl, Except.ok.inj written⟩
  | error fault => cases written

theorem error_of_map_text {fault : Fault} (failed : construction.map Ratio.text = .error fault) :
    construction = .error fault := by
  cases construction with
  | ok ratio => cases failed
  | error other =>
      cases failed
      rfl

theorem equals_one_iff {ratio : Ratio Number} : ratio.equals .one = true ↔ ratio.text = "" := by
  have blank : (one : Ratio Number).text = "" := by decide +kernel
  rw [equals, blank, beq_iff_eq]

end Construction

/-- A ratio without names is written as what is left of its factors. -/
theorem map_text_ofParts_nameless (literal : Fraction ℤ) :
    (ofParts (.ofIntegers literal .empty)).map Ratio.text =
      Literal.fractionText (literal.cancel.map Number.int) := by
  have nameless : symbolicText (Fraction.cancel .empty) = "" := by decide +kernel
  have alone (content : String) : spaced content "" = content := by
    rw [spaced]
    split
    · next blank => exact (String.isEmpty_iff.mp blank).symm
    · rfl
  rw [map_text_ofParts, Parts.cancel_ofIntegers]
  simp only [Parts.text, Parts.ofIntegers, nameless, alone]
  exact bind_pure _

section Integers

variable {above below : ℕ} (abovePositive : 0 < above) (belowPositive : 0 < below)

include abovePositive belowPositive

/-- A ratio of two positive integers is written as what is left of their prime factors. -/
theorem map_text_ofNaturals :
    (ofNaturals above below).map Ratio.text =
      Literal.fractionText ((Fraction.ofPrimes above below).cancel.map Number.int) := by
  rw [ofNaturals, ofTerms, Parts.ofTerms_positive abovePositive belowPositive,
    map_text_ofParts_nameless]

/-- How a ratio of two positive integers is written, and when it is not. -/
theorem map_text_ofNaturals_eq :
    (ofNaturals above below).map Ratio.text =
      if Binary64.IsTooLarge above below then .error .overflow
      else if Binary64.IsNearlyOne above below then .ok ""
      else numeralsText (above / above.gcd below : ℕ) (below / above.gcd below : ℕ) := by
  have reducedPositive := Nat.div_gcd_pos_of_pos_right above belowPositive
  have products := Fraction.prod_cancel_ofPrimes abovePositive belowPositive
  have divided := Number.div_natCast (above / above.gcd below) reducedPositive
  rw [← products.1, ← products.2] at divided
  rw [map_text_ofNaturals abovePositive belowPositive]
  by_cases tooLarge : Binary64.IsTooLarge above below
  · rw [if_pos ((Binary64.isTooLarge_div_gcd abovePositive).mpr tooLarge)] at divided
    rw [if_pos tooLarge, fractionText_of_div_error divided]
  · rw [if_neg (mt (Binary64.isTooLarge_div_gcd abovePositive).mp tooLarge)] at divided
    rw [if_neg tooLarge, fractionText_of_div divided, products.1, products.2]
    refine if_congr ?_ rfl rfl
    rw [Number.equals_one_iff, Binary64.nearest_eq_one_iff reducedPositive,
      Binary64.isNearlyOne_div_gcd abovePositive]

/-- Within the range of doubles, and unless it is mistaken for one, a ratio of two positive
integers is written in lowest terms. -/
theorem map_text_ofNaturals_eq_lowestTerms (representable : ¬Binary64.IsTooLarge above below)
    (distinguished : Binary64.IsNearlyOne above below → above = below)
    (shortAbove : (decimalDigits (above / above.gcd below)).length ≤ digitLimit)
    (shortBelow : (decimalDigits (below / above.gcd below)).length ≤ digitLimit) :
    (ofNaturals above below).map Ratio.text = .ok (lowestTerms above below) := by
  rw [map_text_ofNaturals_eq abovePositive belowPositive, if_neg representable, lowestTerms]
  by_cases same : above = below
  · have nearlyOne : Binary64.IsNearlyOne above below := same ▸ Binary64.isNearlyOne_self above
    rw [if_pos nearlyOne, if_pos same]
  · rw [if_neg (mt distinguished same), if_neg same, numeralsText]
    by_cases whole : below / above.gcd below = 1
    · rw [if_pos (Nat.cast_eq_one.mpr whole), if_pos whole, integerText_natCast shortAbove]
    · rw [if_neg (mt Nat.cast_eq_one.mp whole), if_neg whole, integerText_natCast shortAbove,
        integerText_natCast shortBelow]
      rfl

omit belowPositive in
/-- Where it has a small denominator, only one itself is nearly one. -/
theorem eq_of_isNearlyOne (nearlyOne : Binary64.IsNearlyOne above below)
    (small : below / above.gcd below < 2 ^ 53) : above = below := by
  have reduced := ((Binary64.isNearlyOne_div_gcd abovePositive).mpr nearlyOne).eq small
  calc above = above.gcd below * (above / above.gcd below) :=
        (Nat.mul_div_cancel' (Nat.gcd_dvd_left above below)).symm
    _ = above.gcd below * (below / above.gcd below) := by rw [reduced]
    _ = below := Nat.mul_div_cancel' (Nat.gcd_dvd_right above below)

/-- Two positive integers are written in lowest terms as long as their quotient has a double
that is not mistaken for one; then the ratio equals one only if they are equal. A quotient that
is too large for a double is a fault. A quotient that is nearly one is written as one and
equals it; where the denominator in lowest terms is below 2⁵³ that is one itself. -/
theorem integers_in_lowest_terms :
    (¬Binary64.IsTooLarge above below → (Binary64.IsNearlyOne above below → above = below) →
      (decimalDigits (above / above.gcd below)).length ≤ digitLimit →
      (decimalDigits (below / above.gcd below)).length ≤ digitLimit →
      ∃ ratio, ofNaturals above below = .ok ratio ∧ ratio.text = lowestTerms above below ∧
        (ratio.equals .one = true ↔ above = below)) ∧
    (Binary64.IsTooLarge above below → ofNaturals above below = .error .overflow) ∧
    (Binary64.IsNearlyOne above below →
      ∃ ratio, ofNaturals above below = .ok ratio ∧ ratio.text = "" ∧
        ratio.equals .one = true) ∧
    (Binary64.IsNearlyOne above below → below / above.gcd below < 2 ^ 53 → above = below) := by
  have written := map_text_ofNaturals_eq abovePositive belowPositive
  refine ⟨?lowest, ?overflow, ?mistaken, ?small⟩
  case lowest =>
    intro representable distinguished shortAbove shortBelow
    rcases exists_of_map_text (map_text_ofNaturals_eq_lowestTerms abovePositive belowPositive
      representable distinguished shortAbove shortBelow) with ⟨ratio, made, text⟩
    refine ⟨ratio, made, text, ?_⟩
    rw [equals_one_iff, text, lowestTerms_eq_empty_iff]
  case overflow =>
    intro tooLarge
    rw [if_pos tooLarge] at written
    exact error_of_map_text written
  case mistaken =>
    intro nearlyOne
    rw [if_neg (nearlyOne.not_isTooLarge belowPositive), if_pos nearlyOne] at written
    rcases exists_of_map_text written with ⟨ratio, made, text⟩
    exact ⟨ratio, made, text, equals_one_iff.mpr text⟩
  case small =>
    intro nearlyOne small
    exact eq_of_isNearlyOne abovePositive nearlyOne small

end Integers

/-- Ten twelfths are written as five sixths, a quotient of 10⁴⁰⁰ is refused, and one of two
large neighbours is taken for one. -/
theorem integers_in_lowest_terms_sixths :
    (∃ ratio, ofNaturals 10 12 = .ok ratio ∧ ratio.text = "5/6" ∧
      (ratio.equals .one = true ↔ 10 = 12)) ∧
    ofNaturals (10 ^ 400) 1 = .error .overflow ∧
    ∃ ratio, ofNaturals (10 ^ 16) (10 ^ 16 - 1) = .ok ratio ∧ ratio.text = "" ∧
      ratio.equals .one = true := by
  have sixths : lowestTerms 10 12 = "5/6" := by decide +kernel
  have twelfths := (@integers_in_lowest_terms 10 12 (by decide) (by decide)).1
    (by decide +kernel) (by decide +kernel) (by decide +kernel) (by decide +kernel)
  rw [sixths] at twelfths
  refine ⟨twelfths, ?_, ?_⟩
  · exact (@integers_in_lowest_terms (10 ^ 400) 1 (by decide +kernel) (by decide)).2.1
      (by decide +kernel)
  · exact (@integers_in_lowest_terms (10 ^ 16) (10 ^ 16 - 1) (by decide) (by decide)).2.2.1
      (by decide)

/-- The ratio of 10¹⁶ to the integer below it is written as nothing, and so equals one, although
the two have no divisor in common. -/
theorem neighbours_not_in_lowest_terms :
    lowestTerms (10 ^ 16) (10 ^ 16 - 1) = "10000000000000000/9999999999999999" ∧
      (ofNaturals (10 ^ 16) (10 ^ 16 - 1)).map Ratio.text = .ok "" := by
  constructor
  · decide +kernel
  · rw [map_text_ofNaturals_eq (by decide) (by decide), if_neg (by decide +kernel),
      if_pos (by decide)]

end Ratio
end Metrology
