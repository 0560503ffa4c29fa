import Mathlib
import Metrology.Proofs.Number.DecimalPlaces
import Metrology.Proofs.Quantity.Symmetry

/-!
Keys of equal integer quantities. A key is the base value rounded to decimal places, so that
equal quantities have one key wherever both base values are rounded alike: when they are
computed to the same number, and when no boundary between two keys lies within the noise.
-/

namespace Metrology

attribute [local irreducible] Binary64.one

open Binary64 (roundoff roundoff_pos vast)

/-! ## Digits of base values -/

theorem Action.kept_act {number next : Number} (kept : number.Kept) (action : Action Number)
    (made : Acts.act action number = Except.ok next) : next.Kept := by
  cases action with
  | plus constant => exact Number.kept_of_combine Binary64.kept_add made
  | minus constant => exact Number.kept_of_combine Binary64.kept_sub made
  | times constant => exact Number.kept_of_combine Binary64.kept_mul made
  | dividedBy constant => exact Number.kept_of_div made
  | negation =>
      cases made
      exact Number.kept_negate kept

theorem Pipeline.kept_apply {pipeline : Pipeline (Action Number)} {number base : Number}
    (kept : number.Kept) (made : pipeline.apply number = .ok base) : base.Kept := by
  rcases pipeline with ⟨steps⟩
  induction steps generalizing number with
  | nil =>
      cases made
      exact kept
  | cons step rest induction =>
      rw [apply_cons] at made
      rcases Result.bind_eq_ok.mp made with ⟨next, first, others⟩
      exact induction (Action.kept_act kept step.forward first) others

/-! ## Boundaries between keys -/

/-- No odd multiple of half a unit of the last decimal place lies within a distance of a value. -/
def IsClear (places : ℕ) (distance value : ℚ) : Prop :=
  ∀ half : ℤ, distance < |value - (2 * half + 1) / (2 * 10 ^ places)|

/-- What lies within the distance is closest to one multiple of the unit, and the distance is
less than half of the unit. -/
theorem IsClear.exists_units {places : ℕ} {distance value : ℚ}
    (clear : IsClear places distance value) :
    ∃ units : ℤ, (∀ amount, |amount - value| ≤ distance → |amount * 10 ^ places - units| < 1 / 2) ∧
      2 * distance * 10 ^ places < 1 := by
  have scale : (0 : ℚ) < 10 ^ places := by positivity
  -- Boundaries and distances are counted in units of the last place.
  have counted (half : ℤ) :
      distance * 10 ^ places < |value * 10 ^ places - (half + 1 / 2)| := by
    have boundary : value * 10 ^ places - (half + 1 / 2) =
        (value - (2 * half + 1) / (2 * 10 ^ places)) * 10 ^ places := by
      field_simp
    rw [boundary, abs_mul, abs_of_pos scale]
    exact mul_lt_mul_of_pos_right (clear half) scale
  have below := Int.floor_le (value * 10 ^ places + 1 / 2)
  have above := Int.lt_floor_add_one (value * 10 ^ places + 1 / 2)
  have lower := counted (⌊value * 10 ^ places + 1 / 2⌋ - 1)
  have upper := counted ⌊value * 10 ^ places + 1 / 2⌋
  generalize ⌊value * 10 ^ places + 1 / 2⌋ = units at below above lower upper
  push_cast at lower
  rw [abs_of_nonneg (by linarith)] at lower
  rw [abs_of_neg (by linarith)] at upper
  refine ⟨units, fun amount near => ?_, by linarith⟩
  have scaled : |(amount - value) * 10 ^ places| ≤ distance * 10 ^ places := by
    rw [abs_mul, abs_of_pos scale]
    exact mul_le_mul_of_nonneg_right near scale.le
  rw [sub_mul, abs_le] at scaled
  rw [abs_lt]
  constructor <;> linarith

/-- Multiples of a unit of the last place are clear of boundaries up to half a unit. -/
theorem isClear_of_multiple {places : ℕ} {distance : ℚ} (units : ℤ)
    (less : 2 * distance * 10 ^ places < 1) : IsClear places distance (units / 10 ^ places) := by
  intro half
  have scale : (0 : ℚ) < 2 * 10 ^ places := by positivity
  have odd : (1 : ℚ) ≤ |((2 * units - (2 * half + 1) : ℤ) : ℚ)| := by
    exact_mod_cast Int.one_le_abs (by omega : 2 * units - (2 * half + 1) ≠ 0)
  have counted : (units : ℚ) / 10 ^ places - (2 * half + 1) / (2 * 10 ^ places) =
      (2 * units - (2 * half + 1) : ℤ) / (2 * 10 ^ places) := by
    push_cast
    field_simp
  rw [counted, abs_div, abs_of_pos scale, lt_div_iff₀ scale]
  linarith

/-! ## Keys -/

namespace Quantity

variable {u v : StandardUnit} {number rounded other : Number} {amount : ℚ}

/-- A rounded base value as a key has it: every zero is one and the same. -/
def foldZero (rounded : Number) : Number :=
  if rounded.equals .zero then .float .zero else rounded

theorem foldZero_congr (equal : rounded.equals other = true) :
    (foldZero rounded).equals (foldZero other) = true := by
  rcases Number.cases_of_equals equal with ⟨amount, given, otherGiven⟩ | ⟨negative, rfl, rfl⟩
  · have zero : Number.zero.exact? = some 0 := congrArg some Int.cast_zero
    rw [foldZero, foldZero, Number.equals_eq_decide given zero,
      Number.equals_eq_decide otherGiven zero]
    split
    · decide +kernel
    · exact equal
  · cases negative <;> rfl

theorem asKey_eq_bind (value : ℤ) (places : ℕ) :
    (ofInt value u).asKey (some places) = (do
      let rounded ← (← (ofInt value u).toBase).round places
      return (u.dimension.text, foldZero rounded)) := rfl

theorem asKey_eq_ok {value : ℤ} {places : ℕ} {base : Number}
    (made : (ofInt value u).toBase = .ok base) (key : base.round places = .ok rounded) :
    (ofInt value u).asKey (some places) = .ok (u.dimension.text, foldZero rounded) := by
  rw [asKey_eq_bind, made, Result.ok_bind, key]
  rfl

theorem kept_toBase {value : ℤ} {base : Number} (made : (ofInt value u).toBase = .ok base) :
    base.Kept := by
  have kept : (Number.int value).Kept := trivial
  exact Pipeline.kept_apply kept made

/-- The key of an integer quantity is made with the text of its dimension, unless the integer is
too large for a base value. -/
def MakesKey (places : ℕ) (text : String) (value : ℤ) (unit : StandardUnit) : Prop :=
  (∃ key, (ofInt value unit).asKey (some places) = .ok (text, key)) ∨
    (ofInt value unit).asKey (some places) = .error .overflow ∧ 10 ^ 250 < |value|

theorem makesKey (moderate : u.conversion.IsModerate) (places : ℕ) (value : ℤ) :
    MakesKey places u.dimension.text value u := by
  have key_of_base {base : Number} (made : (ofInt value u).toBase = .ok base) :
      ∃ key, (ofInt value u).asKey (some places) = .ok (u.dimension.text, key) := by
    rcases Number.exists_round (kept_toBase made) places with ⟨rounded, key⟩
    exact ⟨_, asKey_eq_ok made key⟩
  rcases moderate.apply_near value with
    ⟨_, _, made, _⟩ | ⟨failed | ⟨_, made, _⟩, large⟩
  · exact .inl (key_of_base made)
  · refine .inr ⟨?_, large⟩
    have unmade : (ofInt value u).toBase = .error .overflow := failed
    rw [asKey_eq_bind, unmade]
    rfl
  · exact .inl (key_of_base made)

/-- Two quantities have keys, and they are equal. -/
def HaveOneKey (places : ℕ) (left right : StandardQuantity Number) : Prop :=
  ∃ text key otherKey, left.asKey (some places) = .ok (text, key) ∧
    right.asKey (some places) = .ok (text, otherKey) ∧ key.equals otherKey = true

/-! ## Base values near zero -/

/-- The base value of an integer that is not too large. -/
structure BaseValue (unit : StandardUnit) (value : ℤ) (base : Number) (amount : ℚ) : Prop where
  made : (ofInt value unit).toBase = .ok base
  given : base.exact? = some amount
  near : |amount - unit.conversion.image value| ≤
    64 * roundoff * unit.conversion.reach |(value : ℚ)|
  within : |amount| ≤ 2 * unit.conversion.reach |(value : ℚ)|

/-- What a conversion leaves near zero was not far from it. -/
theorem abs_le_of_reach_le (moderate : u.conversion.IsModerate) {value : ℤ}
    (near : u.conversion.reach |(value : ℚ)| ≤ 2 ^ 45) : |value| ≤ 10 ^ 250 := by
  have increasing := moderate.increasing
  have unmoved : 0 ≤ u.conversion.reach 0 := Pipeline.reach_nonneg le_rfl
  have scaled := increasing.scale_mul_reach_inverse (u.conversion.reach |(value : ℚ)|)
  have back : |(value : ℚ)| ≤
      u.conversion.inverse.reach (u.conversion.reach |(value : ℚ)|) := by
    refine le_of_mul_le_mul_left ?_ increasing.scale_pos
    rw [scaled, increasing.reach_eq |(value : ℚ)|]
    linarith
  have reached : u.conversion.inverse.reach (u.conversion.reach |(value : ℚ)|) ≤ 2 ^ 45 * 2 ^ 100 :=
    moderate.backward.upper increasing.inverse List.prefix_rfl (by norm_num) near
  have bound : |(value : ℚ)| ≤ 10 ^ 250 := (back.trans reached).trans (by norm_num)
  exact_mod_cast bound

theorem exists_baseValue (moderate : u.conversion.IsModerate) (value : ℤ)
    (near : u.conversion.reach |(value : ℚ)| ≤ 2 ^ 45) :
    ∃ base amount, BaseValue u value base amount := by
  rcases moderate.apply_near value with ⟨base, amount, made, given, near⟩ | ⟨_, large⟩
  · have short := moderate.short
    have few : 2 * u.conversion.steps.length ≤ 44 := by omega
    refine ⟨base, amount, made, given, ?near, ?within⟩
    case near =>
      exact near.error.trans (mul_le_mul_of_nonneg_right
        (sub_le_iff_le_add'.mpr (growth_le few)) near.distance_nonneg)
    case within =>
      exact near.abs_le.trans (mul_le_mul_of_nonneg_right (growth_le_two few) near.distance_nonneg)
  · exact absurd large (not_lt.mpr (abs_le_of_reach_le moderate near))

/-- An integer among the base values that are near zero is a double too. -/
theorem BaseValue.isKept {value whole : ℤ} (left : BaseValue u value (.int whole) amount)
    (near : u.conversion.reach |(value : ℚ)| < 2 ^ 45) :
    Binary64.IsKept (whole.natAbs * Binary64.one) := by
  have within := left.within
  cases left.given
  have small : |(whole : ℚ)| < 2 ^ 53 := by linarith
  have counted : |whole| < 2 ^ 53 := by exact_mod_cast small
  rw [Int.abs_eq_natAbs] at counted
  exact Binary64.isKept_mul_one (by exact_mod_cast counted)

/-- Closest to so many units of the last place, such a base value is rounded to them. -/
theorem BaseValue.round_of_close {value : ℤ} {base : Number} (left : BaseValue u value base amount)
    (near : u.conversion.reach |(value : ℚ)| < 2 ^ 45) {places : ℕ} (few : places ≤ 323) {units : ℤ}
    (close : |amount * 10 ^ places - units| < 1 / 2) :
    ∃ rounded, base.round places = .ok rounded ∧
      rounded.exact? = some (Number.decimalAmount places units) := by
  refine Number.round_of_close few (kept_toBase left.made) left.given close ?_
  rintro whole rfl
  exact left.isKept near

theorem BaseValue.eq_zero {value : ℤ} {base : Number} (left : BaseValue u value base amount)
    (none : u.conversion.reach |(value : ℚ)| = 0) : amount = 0 :=
  abs_nonpos_iff.mp (left.within.trans (by rw [none, mul_zero]))

theorem noise_eq (x y : ℤ) : noise (exactly x u) (exactly y v) =
    64 * roundoff * u.conversion.reach |(x : ℚ)| + 64 * roundoff * v.conversion.reach |(y : ℚ)| :=
  mul_add _ _ _

theorem reach_int_nonneg (unit : StandardUnit) (value : ℤ) :
    0 ≤ unit.conversion.reach |(value : ℚ)| := Pipeline.reach_nonneg (abs_nonneg _)

/-- Where no boundary can lie, the magnitudes are small in units of the last place. -/
theorem reach_add_reach_lt {x y : ℤ} {places : ℕ}
    (less : 2 * (2 * noise (exactly x u) (exactly y v)) * 10 ^ places < 1) :
    (u.conversion.reach |(x : ℚ)| + v.conversion.reach |(y : ℚ)|) * 10 ^ places < 2 ^ 45 := by
  rw [noise_eq, roundoff] at less
  linarith

/-! ## Equal quantities -/

section Equal

variable {x y : ℤ} (sameText : u.dimension.text = v.dimension.text)

include sameText

/-- Base values that are computed to the same number give the same key. -/
theorem haveOneKey_of_same {base otherBase : Number} (made : (ofInt x u).toBase = .ok base)
    (otherMade : (ofInt y v).toBase = .ok otherBase) (same : base.equals otherBase = true)
    (places : ℕ) : HaveOneKey places (ofInt x u) (ofInt y v) := by
  rcases Number.round_congr (kept_toBase made) (kept_toBase otherMade) same places with
    ⟨rounded, other, first, second, equal⟩
  refine ⟨_, _, _, asKey_eq_ok made first, ?_, foldZero_congr equal⟩
  rw [sameText]
  exact asKey_eq_ok otherMade second

/-- So do base values between which no boundary can lie. -/
theorem haveOneKey_of_clear (moderateU : u.conversion.IsModerate)
    (moderateV : v.conversion.IsModerate) {places : ℕ}
    (near : |u.conversion.image x - v.conversion.image y| ≤ noise (exactly x u) (exactly y v))
    (clear : IsClear places (2 * noise (exactly x u) (exactly y v)) (u.conversion.image x)) :
    HaveOneKey places (ofInt x u) (ofInt y v) := by
  rcases clear.exists_units with ⟨units, closest, less⟩
  have sum := reach_add_reach_lt less
  have scale : (1 : ℚ) ≤ 10 ^ places := one_le_pow₀ (by norm_num)
  have reachU := reach_int_nonneg u x
  have reachV := reach_int_nonneg v y
  have small : u.conversion.reach |(x : ℚ)| + v.conversion.reach |(y : ℚ)| < 2 ^ 45 :=
    (le_mul_of_one_le_right (add_nonneg reachU reachV) scale).trans_lt sum
  rcases exists_baseValue moderateU x (by linarith) with ⟨base, amount, left⟩
  rcases exists_baseValue moderateV y (by linarith) with ⟨otherBase, otherAmount, right⟩
  rcases Nat.lt_or_ge 323 places with many | few
  · -- So near zero an integer has no base value but zero.
    have fine : (10 : ℚ) ^ 250 ≤ 10 ^ places := pow_le_pow_right₀ (by norm_num) (by omega)
    have vanishes {reach : ℚ} (start : reach = 0 ∨ 1 / 2 ^ 100 ≤ reach)
        (atMost : reach ≤ u.conversion.reach |(x : ℚ)| + v.conversion.reach |(y : ℚ)|) :
        reach = 0 := by
      refine start.resolve_right fun large => absurd sum (not_lt.mpr ?_)
      calc (2 : ℚ) ^ 45 ≤ 1 / 2 ^ 100 * 10 ^ 250 := by norm_num
        _ ≤ (u.conversion.reach |(x : ℚ)| + v.conversion.reach |(y : ℚ)|) * 10 ^ places :=
          mul_le_mul (large.trans atMost) fine (by positivity) (add_nonneg reachU reachV)
    have none := left.eq_zero (vanishes (moderateU.reach_eq_zero_or_le x) (by linarith))
    have otherNone := right.eq_zero (vanishes (moderateV.reach_eq_zero_or_le y) (by linarith))
    refine haveOneKey_of_same sameText left.made right.made ?_ places
    rw [Number.equals_eq_decide left.given right.given, none, otherNone]
    exact decide_eq_true rfl
  · have noiseEq := noise_eq (u := u) (v := v) x y
    have slack : (0 : ℚ) ≤ 64 * roundoff := by norm_num [roundoff]
    have noiseU := mul_nonneg slack reachU
    have noiseV := mul_nonneg slack reachV
    have leftNear : |amount - u.conversion.image x| ≤ 2 * noise (exactly x u) (exactly y v) := by
      linarith [left.near]
    have rightNear : |otherAmount - u.conversion.image x| ≤
        2 * noise (exactly x u) (exactly y v) := by
      have apart := abs_sub_le otherAmount (v.conversion.image y) (u.conversion.image x)
      rw [abs_sub_comm (v.conversion.image (y : ℚ))] at apart
      linarith [right.near]
    rcases left.round_of_close (by linarith) few (closest _ leftNear) with ⟨rounded, first, given⟩
    rcases right.round_of_close (by linarith) few (closest _ rightNear) with
      ⟨other, second, otherGiven⟩
    have equal : rounded.equals other = true := by
      rw [Number.equals_eq_decide given otherGiven]
      exact decide_eq_true rfl
    refine ⟨_, _, _, asKey_eq_ok left.made first, ?_, foldZero_congr equal⟩
    rw [sameText]
    exact asKey_eq_ok right.made second

end Equal

/-- Integer quantities that compare equal have one key, if their units are written alike. If
not, they have keys with the text of one dimension, as long as the integers are not too large,
and the keys are equal if the base values are computed to the same number or if no boundary
between two keys lies within twice the noise. -/
theorem keys_of_equal_quantities :
    ∀ first ∈ Catalogue.standard.entries, ∀ second ∈ Catalogue.standard.entries,
      ∀ (x y : ℤ) (places : ℕ), (ofInt x first.2).same (ofInt y second.2) = .ok true →
        (first.2.equals second.2 = true →
          (ofInt x first.2).asKey (some places) = (ofInt y second.2).asKey (some places)) ∧
        (∃ text, MakesKey places text x first.2 ∧ MakesKey places text y second.2) ∧
        (∀ base otherBase, (ofInt x first.2).toBase = .ok base →
          (ofInt y second.2).toBase = .ok otherBase → base.equals otherBase = true →
            HaveOneKey places (ofInt x first.2) (ofInt y second.2)) ∧
        ∃ X, (exactly x first.2).toBase = .ok X ∧
          (IsClear places (2 * noise (exactly x first.2) (exactly y second.2)) X →
            HaveOneKey places (ofInt x first.2) (ofInt y second.2)) := by
  intro first member second otherMember x y places equal
  have moderate := Catalogue.isModerate member
  have otherModerate := Catalogue.isModerate otherMember
  have compatible : first.2.dimension.equals second.2.dimension = true := by
    by_contra different
    have unequal : (ofInt x first.2).same (ofInt y second.2) = .ok false :=
      same_of_not_equals (Bool.eq_false_iff.mpr different)
    exact absurd (equal.symm.trans unequal) nofun
  have sameText : first.2.dimension.text = second.2.dimension.text := eq_of_beq compatible
  have near := (comparesNear member otherMember compatible x y).near equal
  refine ⟨fun same => ?_, ⟨_, makesKey moderate places x, ?_⟩,
    fun base otherBase made otherMade same =>
      haveOneKey_of_same sameText made otherMade same places,
    _, Pipeline.apply_rational moderate.steady x,
    haveOneKey_of_clear sameText moderate otherModerate near⟩
  · rw [same_of_symbols x y compatible same, Except.ok.injEq, decide_eq_true_eq] at equal
    rw [equal, Catalogue.unit_eq_of_equals member otherMember same]
  · rw [sameText]
    exact makesKey otherModerate places y

/-- A yard and three feet have base values that differ in the last digit, but one key. -/
theorem keys_of_equal_quantities_yard :
    ("YARD", Catalogue.yard) ∈ Catalogue.standard.entries ∧
      ("FOOT", Catalogue.foot) ∈ Catalogue.standard.entries ∧
      (ofInt 1 Catalogue.yard).same (ofInt 3 Catalogue.foot) = .ok true ∧
      IsClear 12 (2 * noise (exactly 1 Catalogue.yard) (exactly 3 Catalogue.foot)) (9144 / 10 ^ 4) ∧
      HaveOneKey 12 (ofInt 1 Catalogue.yard) (ofInt 3 Catalogue.foot) := by
  have yard : ("YARD", Catalogue.yard) ∈ Catalogue.standard.entries := by decide +kernel
  have foot : ("FOOT", Catalogue.foot) ∈ Catalogue.standard.entries := by decide +kernel
  have equal : (ofInt 1 Catalogue.yard).same (ofInt 3 Catalogue.foot) = .ok true := by
    decide +kernel
  have yardBase : (exactly 1 Catalogue.yard).toBase = .ok (9144 / 10 ^ 4) := by decide +kernel
  have clear : IsClear 12 (2 * noise (exactly 1 Catalogue.yard) (exactly 3 Catalogue.foot))
      (9144 / 10 ^ 4) := by
    have less : 2 * (2 * noise (exactly 1 Catalogue.yard) (exactly 3 Catalogue.foot)) * 10 ^ 12 <
        1 := by decide +kernel
    have multiple := isClear_of_multiple 914400000000 less
    norm_num at multiple ⊢
    exact multiple
  rcases keys_of_equal_quantities _ yard _ foot 1 3 12 equal with ⟨_, _, _, X, base, sameKey⟩
  have sameX : X = 9144 / 10 ^ 4 := Except.ok.inj (base.symm.trans yardBase)
  exact ⟨yard, foot, equal, clear, sameKey (by rw [sameX]; exact clear)⟩

/-- As many kilograms are 28 short tons and 25 long tons, but they are computed differently, and
so large a number has no twelve decimal places that rounding could take away. -/
theorem tons_have_two_keys :
    (ofInt 28 Catalogue.tonUs).same (ofInt 25 Catalogue.tonUk) = .ok true ∧
      (ofInt 28 Catalogue.tonUs).asKey (some keyPlaces) =
        .ok ("M", .float (.ofDecimal false 25401172720000002 (-12))) ∧
      (ofInt 25 Catalogue.tonUk).asKey (some keyPlaces) =
        .ok ("M", .float (.ofDecimal false 2540117272 (-5))) ∧
      (Number.float (.ofDecimal false 25401172720000002 (-12))).equals
        (.float (.ofDecimal false 2540117272 (-5))) = false := by
  decide +kernel

end Quantity
end Metrology
