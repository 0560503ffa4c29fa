import Mathlib
import Metrology.Proofs.Fraction.Cancellation
import Metrology.Ratio

/-!
The text of a ratio of integers and names depends on exponents alone. Cancelling
fixes both sides up to order; products of integers do not see the order, and names
are counted and then sorted before they are written. Whether a text can be written
at all is decided on the way, so faults agree as well.
-/

namespace Metrology

/-! ## Integers -/

theorem Number.int_beq_int (left right : ℤ) :
    (Number.int left == Number.int right) = (left == right) := by
  change (some (compare left right) == some Ordering.eq) = (left == right)
  by_cases same : left = right
  · subst right
    simp
  · have unequal : compare left right ≠ Ordering.eq := fun equal =>
      same (compare_eq_iff_eq.mp equal)
    simp [same, unequal]

theorem foldlM_mul_int (values : List ℤ) (start : ℤ) :
    (values.map Number.int).foldlM Arithmetic.mul (Number.int start) =
      (.ok (.int (start * values.prod)) : Result Number) := by
  induction values generalizing start with
  | nil => simp
  | cons value rest induction =>
      rw [List.map_cons, List.foldlM_cons]
      change (rest.map Number.int).foldlM Arithmetic.mul (Number.int (start * value)) = _
      rw [induction, List.prod_cons, mul_assoc]

/-- The product of integers is always there, and is their product. -/
theorem product_int (values : List ℤ) :
    product Number.normalize (values.map Number.int) = .ok (.int values.prod) := by
  change ((values.map Number.int).foldlM Arithmetic.mul (Number.int 1) >>= fun total =>
    pure (Number.normalize total)) = _
  rw [foldlM_mul_int, one_mul]
  rfl

/-- The text of a fraction of integers does not depend on the order of either side. -/
theorem fractionText_eq_of_perm {left right : Fraction ℤ} (above : left.above.Perm right.above)
    (below : left.below.Perm right.below) :
    Literal.fractionText (left.map Number.int) = Literal.fractionText (right.map Number.int) := by
  change quotientText Number.normalize (left.map Number.int) =
    quotientText Number.normalize (right.map Number.int)
  simp only [quotientText, Fraction.map, product_int, above.prod_eq, below.prod_eq]

/-! ## Names -/

theorem insertName_eq_orderedInsert (name : String) (names : List String) :
    insertName name names = names.orderedInsert (· ≤ ·) name := by
  induction names with
  | nil => rfl
  | cons other rest induction =>
      rw [insertName, List.orderedInsert_cons, induction]
      by_cases before : other < name
      · rw [if_pos before, if_neg (not_le.mpr before)]
      · rw [if_neg before, if_pos (not_lt.mp before)]

/-- Names are ordered by insertion sort. -/
theorem orderNames_eq_insertionSort (names : List String) :
    orderNames names = names.insertionSort (· ≤ ·) := by
  induction names with
  | nil => rfl
  | cons name rest induction =>
      change insertName name (orderNames rest) = _
      rw [induction, insertName_eq_orderedInsert]
      rfl

theorem orderNames_eq_of_perm {left right : List String} (perm : left.Perm right) :
    orderNames left = orderNames right := by
  rw [orderNames_eq_insertionSort, orderNames_eq_insertionSort]
  apply List.Perm.eq_of_sortedLE List.sortedLE_insertionSort List.sortedLE_insertionSort
  have sortedLeft : (left.insertionSort (· ≤ ·)).Perm left := List.perm_insertionSort _ left
  have sortedRight : (right.insertionSort (· ≤ ·)).Perm right := List.perm_insertionSort _ right
  exact sortedLeft.trans (perm.trans sortedRight.symm)

/-- Counting the terms of two lists that differ in order alone gives the same entries. -/
theorem netCounts_perm {left right : List String} (perm : left.Perm right) :
    (Fraction.netCounts ⟨left, []⟩).Perm (Fraction.netCounts ⟨right, []⟩) := by
  have nodup (names : List String) : (Fraction.netCounts ⟨names, []⟩).Nodup :=
    (Fraction.nodup_terms_netCounts ⟨names, []⟩).of_map
  rw [List.perm_ext_iff_of_nodup (nodup left) (nodup right)]
  intro entry
  rcases entry with ⟨name, count⟩
  rw [Fraction.mem_netCounts, Fraction.mem_netCounts]
  simp [Fraction.exponent, perm.mem_iff, perm.count_eq]

theorem productText_eq_of_perm {left right : List String} (perm : left.Perm right) :
    productText left = productText right := by
  simp only [productText]
  rw [orderNames_eq_of_perm ((netCounts_perm perm).map _)]

theorem symbolicText_eq_of_perm {left right : Fraction String}
    (above : left.above.Perm right.above) (below : left.below.Perm right.below) :
    symbolicText left = symbolicText right := by
  simp only [symbolicText, productText_eq_of_perm above, productText_eq_of_perm below]

/-! ## Parts -/

namespace Parts

/-- Parts whose literals are integers. -/
def ofIntegers (literal : Fraction ℤ) (symbolic : Fraction String) : Parts Number :=
  ⟨literal.map Number.int, symbolic⟩

theorem cancel_ofIntegers (literal : Fraction ℤ) (symbolic : Fraction String) :
    (ofIntegers literal symbolic).cancel = ofIntegers literal.cancel symbolic.cancel := by
  have literals : (literal.map Number.int).cancel = literal.cancel.map Number.int :=
    Fraction.cancel_map Number.int_beq_int literal
  simp only [cancel, ofIntegers]
  exact congrArg (Parts.mk · symbolic.cancel) literals

/-- Parts with the same exponents have the same text after cancellation, or the same
fault in place of one. -/
theorem text_cancel_eq {left right : Fraction ℤ} {leftNames rightNames : Fraction String}
    (literal : left.exponent = right.exponent)
    (symbolic : leftNames.exponent = rightNames.exponent) :
    (ofIntegers left leftNames).cancel.text = (ofIntegers right rightNames).cancel.text := by
  have literals := fractionText_eq_of_perm (Fraction.above_cancel_perm literal)
    (Fraction.below_cancel_perm literal)
  have names := symbolicText_eq_of_perm (Fraction.above_cancel_perm symbolic)
    (Fraction.below_cancel_perm symbolic)
  rw [cancel_ofIntegers, cancel_ofIntegers]
  simp only [text, ofIntegers, literals, names]

end Parts
end Metrology
