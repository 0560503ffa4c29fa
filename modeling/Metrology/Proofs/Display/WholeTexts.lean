import Mathlib
import Metrology.Proofs.Display.Places
import Metrology.Proofs.Number.WholeNumbers
import Metrology.Proofs.Ratio.Signs

/-!
Integers rounded for display. A double that is an integer is written at any number of decimal
places as the integer, a point and zeros, and these are taken away again; the text that is left
tells which integer was written. An integer is therefore shown as it is exactly when rounding it
half up comes back to it, and that it does when its multiple by the power of ten is a double
that a half can be added to.
-/

namespace Metrology

attribute [local irreducible] Binary64.one Binary64.overflowBound

/-! ## Digits of integers -/

theorem decimalDigits_mul_ten {value : ℕ} (positive : 0 < value) :
    decimalDigits (10 * value) = decimalDigits value ++ ['0'] := by
  have joined := Nat.toDigits_append_toDigits (b := 10) (d := 0) (by decide) positive (by decide)
  exact joined.symm

theorem decimalDigits_mul_ten_pow {value : ℕ} (positive : 0 < value) (places : ℕ) :
    decimalDigits (value * 10 ^ places) = decimalDigits value ++ zeros places := by
  induction places with
  | zero => simp [zeros]
  | succ places induction =>
      have last : value * 10 ^ (places + 1) = 10 * (value * 10 ^ places) := by ring
      rw [last, decimalDigits_mul_ten (by positivity), induction, zeros, zeros,
        List.replicate_succ', List.append_assoc]

/-- Integers that are doubles can be written. -/
theorem integerText_of_isExact {value : ℤ} (exact : Binary64.IsExact value) :
    integerText value = .ok (String.ofList
      (Binary64.sign (decide (value < 0)) ++ decimalDigits value.natAbs)) :=
  integerText_of_short (exact.2.trans (by decide +kernel))

theorem Number.powerOfTen_natCast (places : ℕ) :
    Number.powerOfTen (.int places) = .ok (.int (10 ^ places : ℕ)) := by
  rw [Number.powerOfTen, if_pos (Int.natCast_nonneg places), Int.toNat_natCast]
  rfl

namespace Binary64

theorem pointed_decimalDigits (value places : ℕ) :
    pointed places (decimalDigits (value * 10 ^ places)) =
      decimalDigits value ++ if places = 0 then [] else '.' :: zeros places := by
  have padded : zeros (places + 1 - (decimalDigits (value * 10 ^ places)).length) ++
      decimalDigits (value * 10 ^ places) = decimalDigits value ++ zeros places := by
    rcases Nat.eq_zero_or_pos value with rfl | positive
    · have zero : decimalDigits 0 = ['0'] := by decide
      rw [Nat.zero_mul, zero, zeros, zeros]
      exact List.replicate_succ'.symm
    · have nonempty : decimalDigits value ≠ [] := Nat.toDigits_ne_nil
      have longer : places + 1 ≤ (decimalDigits value ++ zeros places).length := by
        have length := List.length_pos_iff.mpr nonempty
        rw [List.length_append, zeros, List.length_replicate]
        omega
      rw [decimalDigits_mul_ten_pow positive, Nat.sub_eq_zero_of_le longer]
      rfl
  have whole : (decimalDigits value ++ zeros places).length - places =
      (decimalDigits value).length := by
    rw [List.length_append, zeros, List.length_replicate, Nat.add_sub_cancel]
  rw [pointed, padded, whole]
  split
  · next none => rw [none, zeros, List.replicate_zero]
  · rw [List.take_left, List.drop_left]

theorem filter_pointed {digits : List Char} (unpointed : '.' ∉ digits) (places : ℕ) :
    (pointed places digits).filter (· != '.') = zeros (places + 1 - digits.length) ++ digits := by
  have kept : (zeros (places + 1 - digits.length) ++ digits).filter (· != '.') =
      zeros (places + 1 - digits.length) ++ digits := by
    refine List.filter_eq_self.mpr fun character member => bne_iff_ne.mpr ?_
    rcases List.mem_append.mp member with padding | digit
    · rw [List.eq_of_mem_replicate padding]
      decide
    · exact ne_of_mem_of_not_mem digit unpointed
  rw [pointed]
  split
  · exact kept
  · rw [List.filter_append, List.filter_cons_of_neg (by decide), ← List.filter_append,
      List.take_append_drop, kept]

/-- The text tells how many units of the last place it writes. -/
theorem pointed_injective {places left right : ℕ}
    (same : pointed places (decimalDigits left) = pointed places (decimalDigits right)) :
    left = right := by
  have read (value : ℕ) : ofDecimalDigits
      ((pointed places (decimalDigits value)).filter (· != '.')) = value := by
    rw [filter_pointed (notMem_decimalDigits (by decide) value), ofDecimalDigits,
      Nat.ofDigitChars_append, zeros, Nat.ofDigitChars_replicate_zero, Nat.mul_zero]
    exact ofDecimalDigits_decimalDigits value
  rw [← read left, same, read]

/-- Behind the point stand as many digits as there are places. -/
theorem exists_pointed {places : ℕ} (positive : 0 < places) (value : ℕ) :
    ∃ whole fraction, pointed places (decimalDigits value) = whole ++ '.' :: fraction ∧
      (∀ character ∈ whole, character.isDigit = true) ∧ fraction.length = places := by
  have digits (character : Char) (member : character ∈ zeros (places + 1 -
      (decimalDigits value).length) ++ decimalDigits value) : character.isDigit = true := by
    rcases List.mem_append.mp member with padding | digit
    · rw [List.eq_of_mem_replicate padding]
      decide
    · exact Nat.isDigit_of_mem_toDigits (by decide) (by decide) digit
  refine ⟨_, _, if_neg positive.ne', fun character member => digits character
    (List.mem_of_mem_take member), ?_⟩
  rw [List.length_drop, List.length_append, zeros, List.length_replicate]
  omega

theorem unitsAt_natCast (places quanta : ℕ) :
    unitsAt places quanta = roundQuotient (quanta * 10 ^ places) one := by
  rw [unitsAt, Number.decimalQuotient_natCast]
  dsimp only
  rw [Nat.one_mul]

theorem fixedText_ofWhole (value : ℤ) (places : ℕ) :
    (ofWhole value).fixedText places = String.ofList (sign (decide (value < 0)) ++
      (decimalDigits value.natAbs ++ if places = 0 then [] else '.' :: zeros places)) := by
  have units : unitsAt places (value.natAbs * one) = value.natAbs * 10 ^ places := by
    rw [unitsAt_natCast, Nat.mul_right_comm, roundQuotient_mul one_pos]
  rw [ofWhole, fixedText, units, pointed_decimalDigits]

end Binary64

namespace Transform

open Binary64

theorem notMem_sign_append {digits : List Char} (unpointed : '.' ∉ digits) (negative : Bool) :
    '.' ∉ sign negative ++ digits := by
  rw [List.mem_append, not_or]
  refine ⟨?_, unpointed⟩
  cases negative <;> decide

theorem withoutZeroFraction_of_unpointed {text : List Char} (unpointed : '.' ∉ text) :
    withoutZeroFraction (String.ofList text) = String.ofList text := by
  have inside : ∀ character ∈ text, (character != '.') = true := fun character member =>
    bne_iff_ne.mpr (ne_of_mem_of_not_mem member unpointed)
  rw [withoutZeroFraction, String.toList_ofList, List.takeWhile_eq_self_iff.mpr inside]
  exact ite_self _

theorem withoutZeroFraction_of_pointed {whole : List Char} (unpointed : '.' ∉ whole)
    (fraction : List Char) :
    withoutZeroFraction (String.ofList (whole ++ '.' :: fraction)) =
      if fraction.all (· == '0') then String.ofList whole
      else String.ofList (whole ++ '.' :: fraction) := by
  have inside : ∀ character ∈ whole, (character != '.') = true := fun character member =>
    bne_iff_ne.mpr (ne_of_mem_of_not_mem member unpointed)
  have point : ('.' != '.') = false := rfl
  rw [withoutZeroFraction, String.toList_ofList, List.takeWhile_append_of_pos inside,
    List.dropWhile_append_of_pos inside, List.takeWhile_cons, List.dropWhile_cons, point]
  simp

/-- What is left of the text of an integer at decimal places is its decimal text. -/
theorem integerText_eq_fixedText {value : ℤ} (exact : IsExact value) (places : ℕ) :
    integerText value = .ok (withoutZeroFraction ((ofWhole value).fixedText places)) := by
  have unpointed : '.' ∉ sign (decide (value < 0)) ++ decimalDigits value.natAbs :=
    notMem_sign_append (notMem_decimalDigits (by decide) _) _
  rw [integerText_of_isExact exact, fixedText_ofWhole, ← List.append_assoc]
  split
  · rw [List.append_nil, withoutZeroFraction_of_unpointed unpointed]
  · have none : (zeros places).all (· == '0') = true := by simp [zeros]
    rw [withoutZeroFraction_of_pointed unpointed, if_pos none]

theorem sign_append_injective {left right : Bool} {first second : List Char}
    (firstUnsigned : '-' ∉ first) (secondUnsigned : '-' ∉ second)
    (same : sign left ++ first = sign right ++ second) : left = right ∧ first = second := by
  cases left <;> cases right
  · exact ⟨rfl, same⟩
  · have signed : first = '-' :: second := same
    exact absurd (signed ▸ List.mem_cons_self ..) firstUnsigned
  · have signed : '-' :: first = second := same
    exact absurd (signed ▸ List.mem_cons_self ..) secondUnsigned
  · exact ⟨rfl, List.append_cancel_left same⟩

/-- What has the decimal text of an integer at decimal places is written in as many units of the
last place as the integer. -/
theorem unitsAt_of_text {negative : Bool} {quanta places : ℕ} {value : ℤ} (positive : 0 < places)
    (same : withoutZeroFraction ((Binary64.finite negative quanta).fixedText places) =
      String.ofList (sign (decide (value < 0)) ++ decimalDigits value.natAbs)) :
    negative = decide (value < 0) ∧ unitsAt places quanta = value.natAbs * 10 ^ places := by
  rcases exists_pointed positive (unitsAt places quanta) with
    ⟨whole, fraction, split, digits, length⟩
  have free {character : Char} (other : character.isDigit = false) : character ∉ whole := by
    intro member
    rw [digits character member] at other
    cases other
  rw [fixedText, split, ← List.append_assoc,
    withoutZeroFraction_of_pointed (notMem_sign_append (free (by decide)) negative)] at same
  split at same
  · next zero =>
      have parts := sign_append_injective (free (by decide))
        (notMem_decimalDigits (by decide) _) (String.ofList_injective same)
      have padding : fraction = zeros places := by
        refine List.eq_replicate_iff.mpr ⟨length, fun character member => ?_⟩
        exact beq_iff_eq.mp (List.all_eq_true.mp zero character member)
      have written : pointed places (decimalDigits (unitsAt places quanta)) =
          pointed places (decimalDigits (value.natAbs * 10 ^ places)) := by
        rw [split, pointed_decimalDigits, if_neg positive.ne', parts.2, padding]
      exact ⟨parts.1, pointed_injective written⟩
  · have pointed : '.' ∈ sign (decide (value < 0)) ++ decimalDigits value.natAbs := by
      rw [← String.ofList_injective same]
      exact List.mem_append_right _ (List.mem_cons_self ..)
    exact absurd pointed (notMem_sign_append (notMem_decimalDigits (by decide) _) _)

/-! ## Rounding integers half up -/

theorem roundHalfUp_eq_bind (value : ℤ) (scale : ℕ) :
    roundHalfUp (.int scale) (Number.int value) =
      (Number.int (value * scale)).add (.float half) >>= fun raised =>
        raised.floor >>= fun whole => Number.divideIntegers whole scale := rfl

/-- Rounding an integer half up makes an integer of the double nearest to its multiple, and
divides that by the scale. -/
theorem roundHalfUp_int {value whole : ℤ} {scale : ℕ} (exact : IsExact whole)
    (scaled : (Number.int (value * scale)).toDouble = .ok (ofWhole whole)) :
    roundHalfUp (.int scale) (Number.int value) =
      Number.divideIntegers (halfUp whole) scale := by
  have raised : Number.add (.int (value * scale)) (.float half) =
      .ok (.float ((ofWhole whole).add half)) := by
    rw [Number.add, Number.combine, scaled]
    · rfl
    · simp
  rw [roundHalfUp_eq_bind, raised, Result.ok_bind, floor_add_half exact, Result.ok_bind]

/-- All that rounding an integer half up can do. -/
theorem roundHalfUp_eq_ok {value : ℤ} {scale : ℕ} {rounded : Number}
    (made : roundHalfUp (.int scale) (Number.int value) = .ok rounded) :
    ∃ whole, IsExact whole ∧ (whole = value * scale ∨ 2 ∣ whole ∧ ¬IsExact (value * scale)) ∧
      Number.divideIntegers (halfUp whole) scale = .ok rounded := by
  have inRange : (ofInt (value * scale)).isFinite = true := by
    by_contra infinite
    have lost : (Number.int (value * scale)).toDouble = .error .overflow := by
      rw [Number.toDouble]
      exact if_neg infinite
    have failed : (Number.int (value * scale)).add (.float half) = .error .overflow := by
      rw [Number.add, Number.combine, lost]
      · rfl
      · simp
    rw [roundHalfUp_eq_bind, failed] at made
    cases made
  rcases exists_nearest_whole inRange with ⟨whole, nearest, exact, same⟩
  have scaled : (Number.int (value * scale)).toDouble = .ok (ofWhole whole) := by
    rw [Number.toDouble, nearest]
    rfl
  exact ⟨whole, exact, same, (roundHalfUp_int exact scaled).symm.trans made⟩

/-- An integer whose multiple by the scale is a double, and is even or small, comes back. -/
theorem roundHalfUp_of_isExact {value : ℤ} {scale : ℕ} (positive : 0 < scale)
    (exact : IsExact (value * scale))
    (settled : 2 ∣ value * scale ∨ (value * scale).natAbs ≤ 2 ^ 52) :
    roundHalfUp (.int scale) (Number.int value) = .ok (.float (ofWhole value)) := by
  rw [roundHalfUp_int exact (toDouble_of_isExact exact), halfUp, if_pos settled,
    divideIntegers_mul value positive, toDouble_of_isExact (exact.of_mul positive)]
  rfl

/-! ## Integers shown as they are -/

/-- Rounding an integer half up at decimal places gives an equal number. -/
def ComesBackAt (places : ℕ) (value : ℤ) : Prop :=
  ∃ scale rounded, Number.powerOfTen (.int places) = .ok scale ∧
    roundHalfUp scale (Number.int value) = .ok rounded ∧ rounded.equals (.int value) = true

/-- What is shown of an integer at decimal places is its decimal text. -/
def IsShownAt (places : ℕ) (value : ℤ) : Prop :=
  ∃ text scale, ∃ shown : Intermediate Number, integerText value = .ok text ∧
    Number.powerOfTen (.int places) = .ok scale ∧
    (roundTo (some places) scale false).apply (.ofValue (.int value)) = .ok shown ∧
      shown.text = .ok text

variable {places : ℕ} {value : ℤ}

theorem comesBackAt_iff :
    ComesBackAt places value ↔
      ∃ rounded, roundHalfUp (.int (10 ^ places : ℕ)) (Number.int value) = .ok rounded ∧
        rounded.equals (.int value) = true := by
  simp only [ComesBackAt, Number.powerOfTen_natCast, Except.ok.injEq, exists_and_left,
    exists_eq_left']

/-- What is shown is left of the text of the double that rounding gives. -/
theorem isShownAt_iff :
    IsShownAt places value ↔
      ∃ negative quanta, IsKept quanta ∧
        roundHalfUp (.int (10 ^ places : ℕ)) (Number.int value) =
          .ok (.float (.finite negative quanta)) ∧
        integerText value =
          .ok (withoutZeroFraction ((Binary64.finite negative quanta).fixedText places)) := by
  constructor
  · rintro ⟨text, scale, shown, written, scaled, applied, shows⟩
    cases (Number.powerOfTen_natCast places).symm.trans scaled
    have rounding : round (some places) (.int (10 ^ places : ℕ)) false (Number.int value) =
        .ok shown := applied
    rcases Result.bind_eq_ok.mp rounding with ⟨rounded, made, rest⟩
    rcases roundHalfUp_eq_ok made with ⟨whole, _, _, divided⟩
    rcases exists_finite_of_divideIntegers divided with ⟨negative, quanta, rfl, kept⟩
    cases rest
    exact ⟨negative, quanta, kept.1, made, written.trans shows.symm⟩
  · rintro ⟨negative, quanta, _, made, written⟩
    refine ⟨_, _, ⟨.float ((Binary64.finite negative quanta).roundedAt places), some _⟩, written,
      Number.powerOfTen_natCast places, ?_, rfl⟩
    change round (some places) _ false (Number.int value) = _
    rw [round, made, Result.ok_bind]
    rfl

theorem isShownAt_of_roundHalfUp (exact : IsExact value)
    (back : roundHalfUp (.int (10 ^ places : ℕ)) (Number.int value) =
      .ok (.float (ofWhole value))) : IsShownAt places value :=
  isShownAt_iff.mpr ⟨_, _, isKept_mul_one_iff.mpr exact.1, back,
    integerText_eq_fixedText exact places⟩

theorem comesBackAt_of_isExact (exact : IsExact (value * (10 ^ places : ℕ)))
    (settled : 2 ∣ value * (10 ^ places : ℕ) ∨ (value * (10 ^ places : ℕ)).natAbs ≤ 2 ^ 52) :
    ComesBackAt places value :=
  comesBackAt_iff.mpr ⟨_, roundHalfUp_of_isExact (by positivity) exact settled,
    equals_ofWhole value⟩

theorem IsShownAt.of_comesBackAt (back : ComesBackAt places value) : IsShownAt places value := by
  rcases comesBackAt_iff.mp back with ⟨rounded, made, equal⟩
  rcases eq_or_ne value 0 with rfl | nonzero
  · have none : IsExact (0 * ((10 ^ places : ℕ) : ℤ)) := by
      rw [zero_mul]
      decide +kernel
    have even : 2 ∣ 0 * ((10 ^ places : ℕ) : ℤ) := by
      rw [zero_mul]
      exact dvd_zero 2
    exact isShownAt_of_roundHalfUp (none.of_mul (by positivity))
      (roundHalfUp_of_isExact (by positivity) none (.inl even))
  · rcases roundHalfUp_eq_ok made with ⟨whole, _, _, divided⟩
    rcases exists_finite_of_divideIntegers divided with ⟨negative, quanta, rfl, kept⟩
    have same := eq_ofWhole_of_equals kept equal
    rw [same.2 nonzero] at made
    exact isShownAt_of_roundHalfUp same.1 made

/-- Without decimal places exactly the integers that are doubles are shown as they are, but for
the odd ones beyond 2⁵². -/
theorem isShownAt_zero_iff :
    IsShownAt 0 value ↔ IsExact value ∧ (2 ∣ value ∨ value.natAbs ≤ 2 ^ 52) := by
  have unscaled (whole : ℤ) : whole * ((10 ^ 0 : ℕ) : ℤ) = whole := by
    rw [pow_zero, Nat.cast_one, mul_one]
  constructor
  · intro shows
    rcases isShownAt_iff.mp shows with ⟨negative, quanta, _, made, written⟩
    rcases roundHalfUp_eq_ok made with ⟨whole, exact, same, divided⟩
    have up := isExact_halfUp exact
    have back := divideIntegers_mul (halfUp whole) (Nat.pow_pos (n := 0) (Nat.succ_pos 9))
    rw [unscaled, divided, toDouble_of_isExact up] at back
    have nearest : Binary64.finite negative quanta = ofWhole (halfUp whole) := by
      cases back
      rfl
    have fixed : value = halfUp whole := by
      rw [nearest] at written
      exact integerText_injective written (integerText_eq_fixedText up 0)
    rw [unscaled] at same
    rcases same with rfl | ⟨even, inexact⟩
    · refine ⟨exact, ?_⟩
      by_contra large
      rw [halfUp, if_neg large] at fixed
      omega
    · rw [halfUp, if_pos (.inl even)] at fixed
      rw [← fixed] at exact
      exact absurd exact inexact
  · rintro ⟨exact, settled⟩
    apply IsShownAt.of_comesBackAt
    apply comesBackAt_of_isExact
    · rwa [unscaled]
    · rwa [unscaled]

/-- An integer is shown as it is exactly when rounding it comes back to it. -/
theorem isShownAt_iff_comesBackAt : IsShownAt places value ↔ ComesBackAt places value := by
  refine ⟨fun shows => ?_, .of_comesBackAt⟩
  rcases Nat.eq_zero_or_pos places with rfl | positive
  · have settled := isShownAt_zero_iff.mp shows
    apply comesBackAt_of_isExact
    · simpa using settled.1
    · simpa using settled.2
  · have even : 2 ∣ 10 ^ places := dvd_pow (by decide) positive.ne'
    by_cases exact : IsExact (value * (10 ^ places : ℕ))
    · have settled : 2 ∣ value * ((10 ^ places : ℕ) : ℤ) :=
        dvd_mul_of_dvd_right (by exact_mod_cast even) value
      exact comesBackAt_of_isExact exact (.inl settled)
    · rcases isShownAt_iff.mp shows with ⟨negative, quanta, kept, made, written⟩
      -- Beyond 2⁵³ no other double is close enough to have the same text.
      have large : 2 ^ 53 < value.natAbs * 10 ^ places := by
        by_contra small
        rw [← Int.natAbs_natCast (10 ^ places), ← Int.natAbs_mul] at small
        exact exact (isExact_of_le (not_lt.mp small))
      have short := natAbs_lt_of_integerText written
      rw [integerText_of_short short] at written
      have units := unitsAt_of_text positive (Except.ok.inj written).symm
      have same := eq_mul_one_of_roundQuotient kept even large
        ((unitsAt_natCast ..).symm.trans units.2)
      refine comesBackAt_iff.mpr ⟨_, made, ?_⟩
      rw [units.1, same]
      exact equals_ofWhole value

end Transform
end Metrology
