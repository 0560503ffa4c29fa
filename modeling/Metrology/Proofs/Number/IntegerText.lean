import Mathlib
import Metrology.Number
import Metrology.Number.Reading

/-!
The texts of integers. An integer within the limit of digits is written with its sign and its
digits and can be told from its text; any other cannot be written.
-/

namespace Metrology

/-! ## Digits -/

theorem notMem_decimalDigits {sign : Char} (notDigit : sign.isDigit = false) (value : ℕ) :
    sign ∉ decimalDigits value := by
  intro member
  have digit := Nat.isDigit_of_mem_toDigits (by decide) (by decide) member
  rw [notDigit] at digit
  cases digit

theorem decimalDigits_injective : Function.Injective decimalDigits :=
  Function.LeftInverse.injective ofDecimalDigits_decimalDigits

theorem digitLimit_lt_length_iff {value : ℕ} :
    digitLimit < (decimalDigits value).length ↔ 10 ^ digitLimit ≤ value := by
  rw [← not_le, decimalDigits, Nat.length_toDigits_le_iff (by decide) (by decide), not_lt]

/-- A numeral of so many digits stands for less than that power of ten. -/
theorem ofDecimalDigits_lt {digits : List Char}
    (areDigits : ∀ digit ∈ digits, isAsciiDigit digit = true) :
    ofDecimalDigits digits < 10 ^ digits.length := by
  induction digits using List.reverseRecOn with
  | nil => exact Nat.one_pos
  | append_singleton digits last induction =>
      have below := induction fun digit member => areDigits digit (List.mem_append_left _ member)
      have lastDigit := areDigits last (List.mem_append_right _ (List.mem_singleton_self last))
      rw [isAsciiDigit, Bool.and_eq_true, decide_eq_true_eq, decide_eq_true_eq] at lastDigit
      have small : last.toNat ≤ 57 := lastDigit.2
      have step : ofDecimalDigits (digits ++ [last]) =
          10 * ofDecimalDigits digits + (last.toNat - 48) := by
        simp [ofDecimalDigits, Nat.ofDigitChars]
      rw [step, List.length_append, List.length_singleton, pow_succ]
      omega

/-! ## Texts -/

theorem integerText_eq_error_iff {value : ℤ} {fault : Fault} :
    integerText value = .error fault ↔
      fault = .tooManyDigits ∧ 10 ^ digitLimit ≤ value.natAbs := by
  rw [integerText]
  split
  · next long => simp [digitLimit_lt_length_iff.mp long, eq_comm]
  · next short => simp [mt digitLimit_lt_length_iff.mpr short]

theorem integerText_of_long {value : ℤ} (long : 10 ^ digitLimit ≤ value.natAbs) :
    integerText value = .error .tooManyDigits := integerText_eq_error_iff.mpr ⟨rfl, long⟩

/-- An integer is written with its sign and its digits, unless there are too many. -/
theorem integerText_of_short {value : ℤ} (short : value.natAbs < 10 ^ digitLimit) :
    integerText value = .ok (String.ofList
      (Binary64.sign (decide (value < 0)) ++ decimalDigits value.natAbs)) := by
  rw [integerText, if_neg (mt digitLimit_lt_length_iff.mp (not_le.mpr short)), Binary64.sign]
  simp only [decide_eq_true_eq]
  split <;> rfl

/-! A power of ten with one digit too many, below zero. -/

theorem neg_ten_pow_lt_one : -(10 : ℤ) ^ digitLimit < 1 := by
  have positive : (0 : ℤ) < 10 ^ digitLimit := by positivity
  omega

theorem natAbs_neg_ten_pow : (-(10 : ℤ) ^ digitLimit).natAbs = 10 ^ digitLimit := by
  rw [Int.natAbs_neg, Int.natAbs_pow, show Int.natAbs 10 = 10 from rfl]

theorem natAbs_lt_of_integerText {value : ℤ} {text : String}
    (written : integerText value = .ok text) : value.natAbs < 10 ^ digitLimit := by
  by_contra long
  rw [integerText_of_long (not_lt.mp long)] at written
  cases written

theorem toString_eq_sign_append (value : ℤ) :
    toString value = String.ofList
      (Binary64.sign (decide (value < 0)) ++ decimalDigits value.natAbs) := by
  rw [← String.toList_inj, String.toList_ofList]
  cases value with
  | ofNat magnitude => exact Nat.toList_repr
  | negSucc previous =>
      have digits : (previous + 1).repr.toList = decimalDigits (previous + 1) := Nat.toList_repr
      have below : Int.negSucc previous < 0 := Int.negSucc_lt_zero _
      change ("-" ++ (previous + 1).repr).toList = _
      rw [String.toList_append, digits, decide_eq_true below]
      rfl

theorem integerText_eq_toString {value : ℤ} (short : value.natAbs < 10 ^ digitLimit) :
    integerText value = .ok (toString value) := by
  rw [integerText_of_short short, toString_eq_sign_append]

theorem integerText_natCast {value : ℕ} (short : (decimalDigits value).length ≤ digitLimit) :
    integerText value = .ok (toString value) :=
  integerText_eq_toString (not_le.mp (mt digitLimit_lt_length_iff.mpr (not_lt.mpr short)))

/-- What is written for an integer starts with a minus sign when the integer is negative. -/
theorem head?_of_integerText {value : ℤ} {numeral : String}
    (written : integerText value = .ok numeral) :
    numeral.toList.head? = some '-' ↔ value < 0 := by
  rw [integerText_of_short (natAbs_lt_of_integerText written)] at written
  cases written
  rw [String.toList_ofList, Binary64.sign]
  by_cases negative : value < 0
  · simp [negative]
  · refine iff_of_false (fun minus => ?_) negative
    rw [decide_eq_false negative] at minus
    exact notMem_decimalDigits (by decide) value.natAbs (List.mem_of_mem_head? minus)

theorem integerText_injective {left right : ℤ} {text : String}
    (leftWritten : integerText left = .ok text) (rightWritten : integerText right = .ok text) :
    left = right := by
  have signs : left < 0 ↔ right < 0 :=
    (head?_of_integerText leftWritten).symm.trans (head?_of_integerText rightWritten)
  rw [integerText_of_short (natAbs_lt_of_integerText leftWritten)] at leftWritten
  rw [integerText_of_short (natAbs_lt_of_integerText rightWritten), ← leftWritten]
    at rightWritten
  have characters := String.ofList_injective (Except.ok.inj rightWritten)
  rw [decide_eq_decide.mpr signs] at characters
  have magnitudes := decimalDigits_injective (List.append_cancel_left characters)
  omega

end Metrology
