import Mathlib
import Metrology.Proofs.Conversion.Exact
import Metrology.Proofs.Number.Rounding

/-!
How far rounding goes. A result is rounded once, by at most one part in 2⁵³, unless it is
smaller than every double that has all its digits, or larger than every double. An operation
on numbers rounds twice: an integer that meets a double is rounded to one, and so is what
comes out.
-/

namespace Metrology

-- Otherwise arithmetic writes the power of two out.
attribute [local irreducible] Binary64.one

/-- To the nearest whole number it is at most a half. -/
theorem abs_roundQuotient_sub_le {denominator : ℕ} (positive : 0 < denominator)
    (numerator : ℕ) :
    |(roundQuotient numerator denominator : ℚ) - numerator / denominator| ≤ 1 / 2 := by
  rcases roundQuotient_cases positive numerator with ⟨floor, remainder, rfl, small, cases⟩
  have unit : (0 : ℚ) < denominator := by exact_mod_cast positive
  have split : ((floor * denominator + remainder : ℕ) : ℚ) / denominator =
      floor + remainder / denominator := by
    push_cast
    field_simp
  have below : (remainder : ℚ) / denominator < 1 := by
    rw [div_lt_one unit]
    exact_mod_cast small
  have notNegative : (0 : ℚ) ≤ remainder / denominator := by positivity
  rw [split, abs_le]
  rcases cases with ⟨above, rounded⟩ | ⟨half, rounded⟩ | ⟨less, rounded⟩
  · have reached : (1 : ℚ) / 2 < remainder / denominator := by
      rw [div_lt_div_iff₀ two_pos unit]
      exact_mod_cast (by omega : 1 * denominator < remainder * 2)
    rw [rounded]
    push_cast
    constructor <;> linarith
  · have reached : (remainder : ℚ) / denominator = 1 / 2 := by
      rw [div_eq_div_iff unit.ne' two_ne_zero]
      exact_mod_cast (by omega : remainder * 2 = 1 * denominator)
    rw [rounded, reached]
    rcases Nat.mod_two_eq_zero_or_one floor with even | odd
    · rw [even]
      norm_num
    · rw [odd]
      push_cast
      constructor <;> linarith
  · have reached : (remainder : ℚ) / denominator < 1 / 2 := by
      rw [div_lt_div_iff₀ unit two_pos]
      exact_mod_cast (by omega : remainder * 2 < 1 * denominator)
    rw [rounded]
    constructor <;> linarith

namespace Binary64

/-- To 53 binary digits it is at most half a unit of the last of them. -/
theorem abs_roundQuanta_sub_le {denominator : ℕ} (positive : 0 < denominator)
    (numerator : ℕ) :
    |(roundQuanta numerator denominator : ℚ) - numerator / denominator| ≤
      max ((numerator : ℚ) / denominator) (2 ^ 52) / 2 ^ 53 := by
  rw [roundQuanta]
  generalize split : bitLength (numerator / denominator) - precision = excess
  have unit : (0 : ℚ) < 2 ^ excess := by positivity
  have scaled : 0 < denominator * Nat.pow 2 excess := Nat.mul_pos positive (Nat.two_pow_pos _)
  have whole := abs_roundQuotient_sub_le scaled numerator
  have error : |(roundQuotient numerator (denominator * Nat.pow 2 excess) * Nat.pow 2 excess : ℕ) -
      (numerator : ℚ) / denominator| ≤ 2 ^ excess / 2 := by
    have factored :
        ((roundQuotient numerator (denominator * Nat.pow 2 excess) * Nat.pow 2 excess : ℕ) -
          (numerator : ℚ) / denominator) =
        (roundQuotient numerator (denominator * Nat.pow 2 excess) -
          (numerator : ℚ) / (denominator * Nat.pow 2 excess : ℕ)) * 2 ^ excess := by
      have divisor : (denominator : ℚ) ≠ 0 := by exact_mod_cast positive.ne'
      simp only [Nat.pow_eq]
      push_cast
      field_simp
    rw [factored, abs_mul, abs_of_pos unit]
    calc _ ≤ 1 / 2 * (2 : ℚ) ^ excess := mul_le_mul_of_nonneg_right whole unit.le
      _ = 2 ^ excess / 2 := by ring
  refine error.trans ?_
  rcases Nat.eq_zero_or_pos excess with short | long
  · have least : (2 : ℚ) ^ 52 ≤ max ((numerator : ℚ) / denominator) (2 ^ 52) := le_max_right _ _
    rw [short]
    linarith
  · have reached : 2 ^ (excess + 52) ≤ numerator / denominator :=
      two_pow_le_of_lt_bitLength (by rw [precision] at split; omega)
    have quotient : (2 : ℚ) ^ (excess + 52) ≤ numerator / denominator :=
      le_trans (by exact_mod_cast reached) Nat.cast_div_le
    have larger : (numerator : ℚ) / denominator ≤ max ((numerator : ℚ) / denominator) (2 ^ 52) :=
      le_max_left _ _
    calc (2 : ℚ) ^ excess / 2 = 2 ^ (excess + 52) / 2 ^ 53 := by rw [pow_add]; ring
      _ ≤ max ((numerator : ℚ) / denominator) (2 ^ 52) / 2 ^ 53 := by gcongr; linarith

/-! ## Rounded amounts -/

/-- What one rounding adds or takes away, at most, of an amount of one. -/
def roundoff : ℚ := 1 / 2 ^ 53

/-- The least double that has all its digits. -/
def normal : ℚ := 2 ^ 52 / one

/-- Nothing that is smaller is rounded to infinity. -/
def vast : ℕ := Nat.pow 2 1023

theorem roundoff_pos : 0 < roundoff := by norm_num [roundoff]

theorem unit_pos : (0 : ℚ) < one := by exact_mod_cast one_pos

theorem normal_pos : 0 < normal := div_pos (by positivity) unit_pos

theorem vast_mul_one : 2 * (vast * one) = overflowBound := by decide +kernel

/-- An exact amount and one that it may be rounded to. -/
structure Rounds (exact amount : ℚ) : Prop where
  error : |amount - exact| ≤ roundoff * max |exact| normal
  zero : exact = 0 → amount = 0

variable {exact amount : ℚ}

theorem Rounds.refl (exact : ℚ) : Rounds exact exact where
  error := by
    rw [sub_self, abs_zero]
    exact mul_nonneg roundoff_pos.le (le_max_of_le_right normal_pos.le)
  zero := id

theorem Rounds.neg (rounds : Rounds exact amount) : Rounds (-exact) (-amount) where
  error := by
    rw [neg_sub_neg, abs_sub_comm, abs_neg]
    exact rounds.error
  zero vanishes := by rw [rounds.zero (neg_eq_zero.mp vanishes), neg_zero]

theorem rounds_roundQuanta {denominator : ℕ} (positive : 0 < denominator) (numerator : ℕ) :
    Rounds (numerator / denominator / one) (roundQuanta numerator denominator / one) where
  error := by
    have unit := unit_pos
    have error := abs_roundQuanta_sub_le positive numerator
    have notNegative : (0 : ℚ) ≤ numerator / denominator / one := by positivity
    calc |(roundQuanta numerator denominator : ℚ) / one - numerator / denominator / one|
        = |(roundQuanta numerator denominator : ℚ) - numerator / denominator| / one := by
          rw [← sub_div, abs_div, abs_of_pos unit]
      _ ≤ max ((numerator : ℚ) / denominator) (2 ^ 52) / 2 ^ 53 / one := by gcongr
      _ = roundoff * max |(numerator : ℚ) / denominator / one| normal := by
          rw [abs_of_nonneg notNegative, normal, max_div_div_right unit.le, roundoff]
          ring
  zero vanishes := by
    have unit := unit_pos
    have quotient : (numerator : ℚ) / denominator = 0 := by
      rcases div_eq_zero_iff.mp vanishes with quotient | none
      · exact quotient
      · exact absurd none unit.ne'
    have error := abs_roundQuanta_sub_le positive numerator
    rw [quotient, sub_zero, max_eq_right (by positivity), Nat.abs_cast] at error
    have less : (roundQuanta numerator denominator : ℚ) < 1 := error.trans_lt (by norm_num)
    have none : roundQuanta numerator denominator = 0 := Nat.lt_one_iff.mp (by exact_mod_cast less)
    rw [none, Nat.cast_zero, zero_div]

theorem cast_signed (negative : Bool) (magnitude : ℕ) :
    ((signed negative magnitude : ℤ) : ℚ) = if negative then -(magnitude : ℚ) else magnitude := by
  rw [signed]
  split <;> push_cast <;> rfl

theorem signed_natAbs (value : ℤ) : signed (decide (value < 0)) value.natAbs = value := by
  rw [signed]
  split
  · next negative =>
      have below : value < 0 := of_decide_eq_true negative
      omega
  · next notNegative =>
      have atLeast : ¬value < 0 := fun below => notNegative (decide_eq_true below)
      omega

theorem vast_le_of_overflowBound_le {numerator denominator : ℕ} (positive : 0 < denominator)
    (large : overflowBound ≤ roundQuanta numerator denominator) :
    (vast : ℚ) ≤ numerator / denominator / one := by
  rcases (⟨2097, rfl⟩ : ∃ exponent, exponent + 1 = 2098) with ⟨exponent, same⟩
  have bound := overflowBound_eq_two_pow same
  have long : 2 ^ (exponent + 1) ≤ 2 ^ bitLength (numerator / denominator) := by
    rw [← bound]
    exact large.trans (roundQuanta_le_two_pow positive)
  have reached : 2 ^ exponent ≤ numerator / denominator :=
    two_pow_le_of_lt_bitLength ((Nat.pow_le_pow_iff_right (by decide)).mp long)
  have counted : vast * one ≤ numerator / denominator := by
    have doubled := vast_mul_one
    rw [bound, pow_succ] at doubled
    omega
  rw [le_div_iff₀ unit_pos]
  exact le_trans (by exact_mod_cast counted) Nat.cast_div_le

end Binary64

/-! ## Numbers and their amounts -/

namespace Number

open Binary64

variable {number : Number} {exact amount : ℚ} {outcome : Result Number}

theorem exact?_int (value : ℤ) : Number.exact? (.int value) = some (value : ℚ) := rfl

theorem exact?_finite (negative : Bool) (quanta : ℕ) :
    Number.exact? (.float (.finite negative quanta)) =
      some ((signed negative quanta : ℚ) / Binary64.one) := by
  rw [← Rat.mkRat_eq_div]
  rfl

/-- The outcome of work that has left the range of doubles. -/
def Lost (outcome : Result Number) : Prop :=
  outcome = .error .overflow ∨ ∃ number, outcome = .ok number ∧ number.exact? = none

/-- The outcome of work whose exact result is rounded, or is too large for that. -/
def Yields (outcome : Result Number) (exact : ℚ) : Prop :=
  (∃ number amount, outcome = .ok number ∧ number.exact? = some amount ∧ Rounds exact amount) ∨
    Lost outcome ∧ vast ≤ |exact|

theorem yields_of_exact (given : number.exact? = some exact) : Yields (.ok number) exact :=
  .inl ⟨number, exact, rfl, given, .refl exact⟩

theorem yields_ofQuotient {denominator : ℕ} (positive : 0 < denominator) (negative : Bool)
    (numerator : ℕ) :
    Yields (.ok (.float (ofQuotient negative numerator denominator)))
      ((signed negative numerator : ℚ) / denominator / Binary64.one) := by
  have rounds := rounds_roundQuanta positive numerator
  rw [ofQuotient]
  split
  · refine .inl ⟨_, _, rfl, exact?_finite .., ?_⟩
    cases negative with
    | false => exact rounds
    | true => simpa only [cast_signed, if_true, neg_div] using rounds.neg
  · next large =>
      refine .inr ⟨.inr ⟨_, rfl, rfl⟩, ?_⟩
      have bound := vast_le_of_overflowBound_le positive (not_lt.mp large)
      have same : |((signed negative numerator : ℤ) : ℚ) / denominator / Binary64.one| =
          numerator / denominator / Binary64.one := by
        rw [abs_div, abs_div, Nat.abs_cast, Nat.abs_cast, cast_signed]
        cases negative <;> simp
      rw [same]
      exact bound

theorem yields_ofQuanta (zeroNegative : Bool) (quanta : ℤ) :
    Yields (.ok (.float (ofQuanta zeroNegative quanta))) ((quanta : ℚ) / Binary64.one) := by
  rw [ofQuanta]
  split
  · next zero =>
      rw [zero]
      apply yields_of_exact
      rw [exact?_finite, cast_signed]
      cases zeroNegative <;> simp
  · have yields := yields_ofQuotient Nat.one_pos (decide (quanta < 0)) quanta.natAbs
    rwa [signed_natAbs, Nat.cast_one, div_one] at yields

/-! ## Doubles -/

section Doubles

variable {value left right : Binary64} {first second : ℚ}

theorem exists_finite (given : Number.exact? (.float value) = some amount) :
    ∃ negative quanta, value = .finite negative quanta ∧
      amount = (signed negative quanta : ℚ) / Binary64.one := by
  cases value with
  | finite negative quanta =>
      rw [exact?_finite] at given
      exact ⟨negative, quanta, rfl, (Option.some.inj given).symm⟩
  | infinite negative => cases given
  | nan mark => cases given

theorem isFinite_of_exact (given : Number.exact? (.float value) = some amount) :
    value.isFinite = true := by
  rcases exists_finite given with ⟨_, _, rfl, _⟩
  rfl

theorem isFinite_eq_false (outside : Number.exact? (.float value) = none) :
    value.isFinite = false := by
  cases value with
  | finite negative quanta => cases outside
  | infinite negative => rfl
  | nan mark => rfl

theorem exact?_neg (given : Number.exact? (.float value) = some amount) :
    Number.exact? (.float value.neg) = some (-amount) := by
  rcases exists_finite given with ⟨negative, quanta, rfl, rfl⟩
  rw [Binary64.neg, exact?_finite, cast_signed, cast_signed, ← neg_div]
  cases negative <;> simp

theorem signed_bne_mul (first second : Bool) (left right : ℕ) :
    signed (first != second) (left * right) = signed first left * signed second right := by
  cases first <;> cases second <;> simp [signed]

theorem cast_signed_bne_div (first second : Bool) (left right : ℕ) :
    ((signed (first != second) left : ℤ) : ℚ) / right =
      signed first left / signed second right := by
  simp only [cast_signed]
  cases first <;> cases second <;> simp [neg_div, div_neg]

variable (firstGiven : Number.exact? (.float left) = some first)
  (secondGiven : Number.exact? (.float right) = some second)

include firstGiven secondGiven

theorem yields_add : Yields (.ok (.float (left.add right))) (first + second) := by
  rcases exists_finite firstGiven with ⟨_, _, rfl, rfl⟩
  rcases exists_finite secondGiven with ⟨_, _, rfl, rfl⟩
  rw [← add_div, ← Int.cast_add]
  exact yields_ofQuanta ..

theorem yields_sub : Yields (.ok (.float (left.sub right))) (first - second) := by
  rw [sub_eq_add_neg]
  exact yields_add firstGiven (exact?_neg secondGiven)

theorem yields_mul : Yields (.ok (.float (left.mul right))) (first * second) := by
  rcases exists_finite firstGiven with ⟨leftNegative, leftQuanta, rfl, rfl⟩
  rcases exists_finite secondGiven with ⟨rightNegative, rightQuanta, rfl, rfl⟩
  have yields := yields_ofQuotient Binary64.one_pos (leftNegative != rightNegative)
    (leftQuanta * rightQuanta)
  rw [signed_bne_mul, Int.cast_mul, mul_div_assoc, mul_div_right_comm] at yields
  exact yields

theorem yields_div (nonzero : second ≠ 0) :
    Yields (.ok (.float (left.div right))) (first / second) := by
  rcases exists_finite firstGiven with ⟨leftNegative, leftQuanta, rfl, rfl⟩
  rcases exists_finite secondGiven with ⟨rightNegative, rightQuanta, rfl, rfl⟩
  have unit := unit_pos
  have positive : 0 < rightQuanta := by
    refine Nat.pos_of_ne_zero fun none => nonzero ?_
    rw [none, cast_signed]
    cases rightNegative <;> simp
  have yields := yields_ofQuotient positive (leftNegative != rightNegative)
    (leftQuanta * Binary64.one)
  rw [cast_signed_bne_div, signed_mul, Int.cast_mul, Int.cast_natCast, mul_div_right_comm,
    mul_div_cancel_right₀ _ unit.ne'] at yields
  rwa [div_div_div_cancel_right₀ unit.ne']

omit firstGiven in
/-- What has left the range of doubles stays outside. -/
theorem exact?_eq_none_of_operands (lost : Number.exact? (.float left) = none) :
    Number.exact? (.float (left.add right)) = none ∧
      Number.exact? (.float (left.sub right)) = none ∧
        Number.exact? (.float (left.mul right)) = none ∧
          Number.exact? (.float (left.div right)) = none := by
  rcases exists_finite secondGiven with ⟨_, quanta, rfl, rfl⟩
  cases left with
  | finite negative quanta => cases lost
  | infinite negative =>
      refine ⟨rfl, rfl, ?_, rfl⟩
      rw [Binary64.mul]
      split <;> rfl
  | nan mark => exact ⟨rfl, rfl, rfl, rfl⟩

end Doubles

/-! ## Operations with a constant -/

/-- Numbers that are doubles already, or integers that are rounded to themselves. -/
def IsDouble (number : Number) : Prop :=
  number.exact?.isSome ∧
    number.toDouble.toOption.bind (fun value => Number.exact? (.float value)) = number.exact?

instance : DecidablePred IsDouble := fun _ =>
  inferInstanceAs (Decidable (_ ∧ _))

theorem IsDouble.exists_toDouble (isDouble : number.IsDouble) :
    ∃ value, number.toDouble = .ok value ∧
      Number.exact? (.float value) = some number.exactValue := by
  rcases isDouble with ⟨finite, same⟩
  rcases Option.isSome_iff_exists.mp finite with ⟨amount, given⟩
  cases converted : number.toDouble with
  | error fault =>
      rw [converted, given] at same
      cases same
  | ok value =>
      rw [converted] at same
      exact ⟨value, rfl, same.trans (by rw [exactValue, given]; rfl)⟩

/-- The outcome of an operation whose operand and whose result are rounded, unless one of
them is too large for that. -/
def RoundsTwice (operation : ℚ → ℚ) (amount : ℚ) (outcome : Result Number) : Prop :=
  ∃ rounded, Rounds amount rounded ∧
    (Yields outcome (operation rounded) ∨ Lost outcome ∧ vast ≤ |amount|)

theorem Yields.roundsTwice {operation : ℚ → ℚ} (yields : Yields outcome (operation amount)) :
    RoundsTwice operation amount outcome := ⟨amount, .refl amount, .inl yields⟩

theorem toDouble_cases (given : number.exact? = some amount) :
    (∃ value rounded, number.toDouble = .ok value ∧ Number.exact? (.float value) = some rounded ∧
      Rounds amount rounded) ∨ number.toDouble = .error .overflow ∧ vast ≤ |amount| := by
  cases number with
  | float value => exact .inl ⟨value, amount, rfl, given, .refl amount⟩
  | int value =>
      cases given
      have yields := yields_ofQuanta false (value * Binary64.one)
      rw [Int.cast_mul, Int.cast_natCast, mul_div_cancel_right₀ _ unit_pos.ne'] at yields
      rcases yields with ⟨_, rounded, ⟨⟩, result, rounds⟩ | ⟨⟨⟨⟩⟩ | ⟨_, ⟨⟩, outside⟩, large⟩
      · exact .inl ⟨_, rounded, if_pos (isFinite_of_exact result), result, rounds⟩
      · exact .inr ⟨if_neg (Bool.eq_false_iff.mp (isFinite_eq_false outside)), large⟩

section Constant

variable {constant : Number} (isDouble : constant.IsDouble)

include isDouble

/-- Operations that are carried out on doubles. -/
theorem onDoubles_roundsTwice {finish : Binary64 → Binary64 → Result Number} {operation : ℚ → ℚ}
    (yields : ∀ left right first, Number.exact? (.float left) = some first →
      Number.exact? (.float right) = some constant.exactValue →
        Yields (finish left right) (operation first))
    (given : number.exact? = some amount) :
    RoundsTwice operation amount (do finish (← number.toDouble) (← constant.toDouble)) := by
  rcases isDouble.exists_toDouble with ⟨double, converted, doubleGiven⟩
  rw [converted]
  rcases toDouble_cases given with ⟨value, rounded, operand, result, rounds⟩ | ⟨overflow, large⟩
  · rw [operand]
    exact ⟨rounded, rounds, .inl (yields value double rounded result doubleGiven)⟩
  · rw [overflow]
    exact ⟨amount, .refl amount, .inr ⟨.inl rfl, large⟩⟩

theorem onDoubles_lost {finish : Binary64 → Binary64 → Result Number}
    (loses : ∀ left right, Number.exact? (.float left) = none →
      Number.exact? (.float right) = some constant.exactValue → Lost (finish left right))
    (lost : number.exact? = none) :
    Lost (do finish (← number.toDouble) (← constant.toDouble)) := by
  rcases isDouble.exists_toDouble with ⟨double, converted, doubleGiven⟩
  cases number with
  | int value => cases lost
  | float value =>
      rw [converted]
      exact loses value double lost doubleGiven

theorem combine_roundsTwice {integers : ℤ → ℤ → ℤ} {doubles : Binary64 → Binary64 → Binary64}
    {operation : ℚ → ℚ → ℚ}
    (integersExact : ∀ left right, (integers left right : ℚ) = operation left right)
    (yields : ∀ left right first second, Number.exact? (.float left) = some first →
      Number.exact? (.float right) = some second →
        Yields (.ok (.float (doubles left right))) (operation first second))
    (given : number.exact? = some amount) :
    RoundsTwice (operation · constant.exactValue) amount
      (combine integers doubles number constant) := by
  have viaDoubles := onDoubles_roundsTwice isDouble
    (fun left right first => yields left right first constant.exactValue) given
  cases number with
  | float value => exact viaDoubles
  | int value =>
      cases constant with
      | float other => exact viaDoubles
      | int other =>
          cases given
          apply Yields.roundsTwice
          apply yields_of_exact
          rw [exact?_int, integersExact]
          rfl

theorem combine_lost {integers : ℤ → ℤ → ℤ} {doubles : Binary64 → Binary64 → Binary64}
    (loses : ∀ left right second, Number.exact? (.float right) = some second →
      Number.exact? (.float left) = none → Number.exact? (.float (doubles left right)) = none)
    (lost : number.exact? = none) : Lost (combine integers doubles number constant) := by
  have viaDoubles : Lost (do
      let left ← number.toDouble
      let right ← constant.toDouble
      return .float (doubles left right)) :=
    onDoubles_lost isDouble
      (fun left right outside given => .inr ⟨_, rfl, loses left right _ given outside⟩) lost
  cases number with
  | int value => cases lost
  | float value => exact viaDoubles

theorem add_roundsTwice (given : number.exact? = some amount) :
    RoundsTwice (· + constant.exactValue) amount (number.add constant) :=
  combine_roundsTwice isDouble Int.cast_add (fun _ _ _ _ => yields_add) given

theorem sub_roundsTwice (given : number.exact? = some amount) :
    RoundsTwice (· - constant.exactValue) amount (number.sub constant) :=
  combine_roundsTwice isDouble Int.cast_sub (fun _ _ _ _ => yields_sub) given

theorem mul_roundsTwice (given : number.exact? = some amount) :
    RoundsTwice (· * constant.exactValue) amount (number.mul constant) :=
  combine_roundsTwice isDouble Int.cast_mul (fun _ _ _ _ => yields_mul) given

theorem add_lost (lost : number.exact? = none) : Lost (number.add constant) :=
  combine_lost isDouble
    (fun _ _ _ given outside => (exact?_eq_none_of_operands given outside).1) lost

theorem sub_lost (lost : number.exact? = none) : Lost (number.sub constant) :=
  combine_lost isDouble
    (fun _ _ _ given outside => (exact?_eq_none_of_operands given outside).2.1) lost

theorem mul_lost (lost : number.exact? = none) : Lost (number.mul constant) :=
  combine_lost isDouble
    (fun _ _ _ given outside => (exact?_eq_none_of_operands given outside).2.2.1) lost

end Constant

/-! ### Division -/

/-- The quotient of two doubles, unless the second is zero. -/
theorem isZero_eq_false {value : Binary64} (given : Number.exact? (.float value) = some amount)
    (nonzero : amount ≠ 0) : value.isZero = false := by
  rcases exists_finite given with ⟨negative, quanta, rfl, rfl⟩
  rw [isZero, beq_eq_false_iff_ne]
  rintro rfl
  apply nonzero
  rw [cast_signed]
  cases negative <;> simp

theorem yields_divideIntegers (dividend : ℤ) {divisor : ℤ} (nonzero : divisor ≠ 0) :
    Yields (divideIntegers dividend divisor) (dividend / divisor) := by
  have positive : 0 < divisor.natAbs := Int.natAbs_pos.mpr nonzero
  have yields := yields_ofQuotient positive (decide (dividend < 0) != decide (divisor < 0))
    (dividend.natAbs * Binary64.one)
  rw [cast_signed_bne_div, signed_mul, signed_natAbs, signed_natAbs, Int.cast_mul,
    Int.cast_natCast, mul_div_right_comm, mul_div_cancel_right₀ _ unit_pos.ne'] at yields
  rw [divideIntegers, if_neg nonzero]
  rcases yields with ⟨_, rounded, ⟨⟩, result, rounds⟩ | ⟨⟨⟨⟩⟩ | ⟨_, ⟨⟩, outside⟩, large⟩
  · exact .inl ⟨_, rounded, if_pos (isFinite_of_exact result), result, rounds⟩
  · exact .inr ⟨.inl (if_neg (Bool.eq_false_iff.mp (isFinite_eq_false outside))), large⟩

theorem div_roundsTwice {constant : Number} (isDouble : constant.IsDouble)
    (nonzero : constant.exactValue ≠ 0) (given : number.exact? = some amount) :
    RoundsTwice (· / constant.exactValue) amount (number.div constant) := by
  have viaDoubles : RoundsTwice (· / constant.exactValue) amount (do
      let left ← number.toDouble
      let right ← constant.toDouble
      if right.isZero then .error .divisionByZero else return .float (left.div right)) := by
    refine onDoubles_roundsTwice isDouble (fun left right first leftGiven rightGiven => ?_) given
    rw [isZero_eq_false rightGiven nonzero]
    exact yields_div leftGiven rightGiven nonzero
  cases number with
  | float value => exact viaDoubles
  | int value =>
      cases constant with
      | float other => exact viaDoubles
      | int other =>
          cases given
          have divisor : other ≠ 0 := fun zero => nonzero (by rw [zero]; rfl)
          exact ⟨value, .refl _, .inl (yields_divideIntegers value divisor)⟩

theorem div_lost {constant : Number} (isDouble : constant.IsDouble)
    (nonzero : constant.exactValue ≠ 0) (lost : number.exact? = none) :
    Lost (number.div constant) := by
  have viaDoubles : Lost (do
      let left ← number.toDouble
      let right ← constant.toDouble
      if right.isZero then .error .divisionByZero else return .float (left.div right)) := by
    refine onDoubles_lost isDouble (fun left right outside given => ?_) lost
    rw [isZero_eq_false given nonzero]
    exact .inr ⟨_, rfl, (exact?_eq_none_of_operands given outside).2.2.2⟩
  cases number with
  | int value => cases lost
  | float value => exact viaDoubles

/-! ### Change of sign -/

theorem exact?_negate (given : number.exact? = some amount) :
    number.neg.exact? = some (-amount) := by
  cases number with
  | int value =>
      cases given
      exact congrArg some (Int.cast_neg value)
  | float value => exact exact?_neg given

theorem negate_lost (lost : number.exact? = none) : number.neg.exact? = none := by
  cases number with
  | int value => cases lost
  | float value =>
      cases value with
      | finite negative quanta => cases lost
      | infinite negative => rfl
      | nan mark => rfl

/-! ## Comparison

Nothing is rounded before it is compared. -/

section Comparison

variable {left right : Number} {first second : ℚ}

theorem compare_beq_eq (first second : ℤ) :
    (some (compare first second) == some Ordering.eq) = decide (first = second) := by
  rw [Bool.eq_iff_iff, beq_iff_eq, Option.some_inj, decide_eq_true_eq]
  exact compare_eq_iff_eq

/-- Numbers are equal when their amounts are. -/
theorem equals_eq_decide (leftGiven : left.exact? = some first)
    (rightGiven : right.exact? = some second) : left.equals right = decide (first = second) := by
  have unit := Binary64.unit_pos.ne'
  have counted (whole quanta : ℤ) :
      whole * (Binary64.one : ℤ) = quanta ↔ (whole : ℚ) = quanta / Binary64.one := by
    rw [eq_div_iff unit]
    exact_mod_cast Iff.rfl
  cases left with
  | int value =>
      cases leftGiven
      cases right with
      | int other =>
          cases rightGiven
          rw [equals, compare?, compare_beq_eq]
          exact decide_eq_decide.mpr Int.cast_inj.symm
      | float other =>
          rcases exists_finite rightGiven with ⟨negative, quanta, rfl, rfl⟩
          rw [equals, compare?, Binary64.compareInt?, compare_beq_eq]
          exact decide_eq_decide.mpr (counted value _)
  | float value =>
      rcases exists_finite leftGiven with ⟨negative, quanta, rfl, rfl⟩
      cases right with
      | int other =>
          cases rightGiven
          rw [equals, compare?, Binary64.compareInt?, Option.map_some, ← Int.compare_swap,
            Ordering.swap_swap, compare_beq_eq]
          exact decide_eq_decide.mpr (eq_comm.trans ((counted other _).trans eq_comm))
      | float other =>
          rcases exists_finite rightGiven with ⟨otherNegative, otherQuanta, rfl, rfl⟩
          rw [equals, compare?, Binary64.compare?, compare_beq_eq]
          exact decide_eq_decide.mpr (by rw [div_left_inj' unit, Int.cast_inj])

/-- No number that has an amount equals what has left the range of doubles. -/
theorem equals_eq_false (given : left.exact? = some first) (outside : right.exact? = none) :
    left.equals right = false := by
  cases right with
  | int other => cases outside
  | float other =>
      cases left with
      | int value =>
          cases other with
          | finite negative quanta => cases outside
          | infinite negative => cases negative <;> rfl
          | nan mark => rfl
      | float value =>
          rcases exists_finite given with ⟨_, _, rfl, _⟩
          cases other with
          | finite negative quanta => cases outside
          | infinite negative => cases negative <;> rfl
          | nan mark => rfl

/-- Equal numbers have one amount, or they are the same infinity. -/
theorem cases_of_equals (equal : left.equals right = true) :
    (∃ amount, left.exact? = some amount ∧ right.exact? = some amount) ∨
      ∃ negative, left = .float (.infinite negative) ∧ right = .float (.infinite negative) := by
  cases leftGiven : left.exact? with
  | some first =>
      cases rightGiven : right.exact? with
      | some second =>
          rw [equals_eq_decide leftGiven rightGiven, decide_eq_true_eq] at equal
          exact .inl ⟨first, rfl, by rw [equal]⟩
      | none =>
          rw [equals_eq_false leftGiven rightGiven] at equal
          cases equal
  | none =>
      cases left with
      | int value => cases leftGiven
      | float value =>
          cases value with
          | finite negative quanta => cases leftGiven
          | nan mark => cases right <;> cases equal
          | infinite negative =>
              cases right with
              | int other => cases negative <;> cases equal
              | float other =>
                  cases other with
                  | finite otherNegative quanta => cases negative <;> cases equal
                  | nan mark => cases negative <;> cases equal
                  | infinite otherNegative =>
                      cases negative <;> cases otherNegative
                      · exact .inr ⟨_, rfl, rfl⟩
                      · cases equal
                      · cases equal
                      · exact .inr ⟨_, rfl, rfl⟩

end Comparison

end Number
end Metrology
