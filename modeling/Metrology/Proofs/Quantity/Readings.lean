import Mathlib
import Metrology.Catalogue
import Metrology.Proofs.Conversion.Noise

/-!
Integer magnitudes in the units of the catalogue. An integer that is not too large has a base
value and a reading in every unit of its dimension, and both are as near to the exact ones as
64 roundings leave them. Larger integers may leave the range of doubles on the way, and no
other integers do.
-/

namespace Metrology

attribute [local irreducible] Binary64.one

open Binary64 (roundoff roundoff_pos normal vast)
open Number (Lost)

/-! ## Units of the catalogue -/

/-- Pipelines of a few steps, with positive scales and with doubles for constants, that do not
reach far in either direction. -/
structure Pipeline.IsModerate (pipeline : Pipeline (Action Number)) : Prop where
  increasing : pipeline.IsIncreasing
  steady : pipeline.IsSteady
  forward : pipeline.Spans (1 / 2 ^ 100) (2 ^ 55)
  backward : pipeline.inverse.Spans (1 / 2 ^ 55) (2 ^ 100)
  short : pipeline.steps.length ≤ 11

instance (pipeline : Pipeline (Action Number)) : Decidable pipeline.IsModerate :=
  decidable_of_iff (pipeline.IsIncreasing ∧ pipeline.IsSteady ∧
      pipeline.Spans (1 / 2 ^ 100) (2 ^ 55) ∧ pipeline.inverse.Spans (1 / 2 ^ 55) (2 ^ 100) ∧
        pipeline.steps.length ≤ 11)
    ⟨fun ⟨increasing, steady, forward, backward, short⟩ =>
        ⟨increasing, steady, forward, backward, short⟩,
      fun moderate => ⟨moderate.increasing, moderate.steady, moderate.forward, moderate.backward,
        moderate.short⟩⟩

theorem Catalogue.isModerate {entry : String × StandardUnit} (member : entry ∈ standard.entries) :
    entry.2.conversion.IsModerate := by
  have all : ∀ entry ∈ standard.entries, entry.2.conversion.IsModerate := by decide +kernel
  exact all entry member

/-! ## Bounds -/

theorem growth_le {roundings : ℕ} (few : roundings ≤ 44) :
    growth roundings ≤ 1 + 64 * roundoff := by
  refine (growth_mono few).trans ?_
  norm_num [growth, roundoff]

theorem growth_le_two {roundings : ℕ} (few : roundings ≤ 44) : growth roundings ≤ 2 :=
  (growth_le few).trans (by norm_num [roundoff])

theorem sized_of_le {distance : ℚ} (start : distance = 0 ∨ 1 / 2 ^ 155 ≤ distance) :
    Sized distance := by
  have least : normal ≤ 1 / 2 ^ 155 := by decide +kernel
  exact start.imp_right least.trans

theorem growth_mul_lt_vast {roundings : ℕ} (few : roundings ≤ 44) {distance : ℚ}
    (notNegative : 0 ≤ distance) (near : distance ≤ 10 ^ 250 * 2 ^ 55 * 2 ^ 100) :
    growth roundings * distance < vast := by
  have bound : 2 * (10 ^ 250 * 2 ^ 55 * 2 ^ 100) < vast := by decide +kernel
  calc growth roundings * distance ≤ 2 * (10 ^ 250 * 2 ^ 55 * 2 ^ 100) :=
        mul_le_mul (growth_le_two few) near notNegative two_pos.le
    _ < vast := by exact_mod_cast bound

theorem abs_eq_zero_or_one_le (value : ℤ) : |(value : ℚ)| = 0 ∨ 1 ≤ |(value : ℚ)| := by
  rcases eq_or_ne value 0 with rfl | nonzero
  · exact .inl (by simp)
  · exact .inr (by exact_mod_cast Int.one_le_abs nonzero)

namespace Pipeline

variable {first second : Pipeline (Action Number)}

/-- A run from a number that is near ends near, when the pipeline does not reach far and the
number is not too far from zero either. -/
theorem Spans.run {pipeline : Pipeline (Action Number)} {low high : ℚ}
    (spans : pipeline.Spans low high) (increasing : pipeline.IsIncreasing)
    (steady : pipeline.IsSteady) {roundings : ℕ} {number : Number} {distance exact amount : ℚ}
    (given : number.exact? = some amount) (near : IsNear roundings distance exact amount)
    (few : roundings + 2 * pipeline.steps.length ≤ 44) {least : ℚ}
    (start : distance = 0 ∨ least ≤ distance) (small : least ≤ 1) (notNegative : 0 ≤ least)
    (lowNonneg : 0 ≤ low) (enough : 1 / 2 ^ 155 ≤ least * low) :
    (∃ next result, pipeline.apply number = .ok next ∧ next.exact? = some result ∧
      IsNear (roundings + 2 * pipeline.steps.length) (pipeline.reach distance)
        (pipeline.image exact) result) ∨
    Lost (pipeline.apply number) ∧
      ∀ most, 1 ≤ most → most * high ≤ 10 ^ 250 * 2 ^ 55 * 2 ^ 100 → most < distance := by
  have sized (part : List (Step (Action Number))) (prefixed : part <+: pipeline.steps) :
      Sized (reach ⟨part⟩ distance) :=
    sized_of_le ((spans.lower increasing prefixed lowNonneg notNegative small start).imp_right
      enough.trans)
  rcases run_near steady sized given near with ended | ⟨lost, part, prefixed, large⟩
  · exact .inl ended
  · refine .inr ⟨lost, fun most atLeast bounded => ?_⟩
    by_contra within
    have reached := spans.upper increasing prefixed atLeast (not_lt.mp within)
    exact absurd large (not_le.mpr (growth_mul_lt_vast few (reach_nonneg near.distance_nonneg)
      (reached.trans bounded)))

/-- Of an integer a pipeline makes zero, or nothing that is tiny. -/
theorem IsModerate.reach_eq_zero_or_le (moderate : first.IsModerate) (value : ℤ) :
    first.reach |(value : ℚ)| = 0 ∨ 1 / 2 ^ 100 ≤ first.reach |(value : ℚ)| := by
  have reached := moderate.forward.lower moderate.increasing List.prefix_rfl (by positivity)
    zero_le_one le_rfl (abs_eq_zero_or_one_le value)
  rwa [one_mul] at reached

/-- A run over an integer ends near the exact result, unless the integer is too large. -/
theorem IsModerate.apply_near (moderate : first.IsModerate) (value : ℤ) :
    (∃ base amount, first.apply (Number.int value) = .ok base ∧ base.exact? = some amount ∧
      IsNear (2 * first.steps.length) (first.reach |(value : ℚ)|) (first.image value) amount) ∨
    Lost (first.apply (Number.int value)) ∧ 10 ^ 250 < |value| := by
  have short := moderate.short
  have ran := moderate.forward.run moderate.increasing moderate.steady (Number.exact?_int value)
    (IsNear.start le_rfl : IsNear 0 _ _ _) (by omega) (abs_eq_zero_or_one_le value) le_rfl
    zero_le_one (by positivity) (by norm_num)
  rw [Nat.zero_add] at ran
  rcases ran with ended | ⟨lost, large⟩
  · exact .inl ended
  · have beyond : (10 ^ 250 : ℚ) < |(value : ℚ)| := large _ (by norm_num) (by norm_num)
    exact .inr ⟨lost, by exact_mod_cast beyond⟩

/-- And so does a run that is taken back through another pipeline. -/
theorem IsModerate.apply_unapply_near (moderateFirst : first.IsModerate)
    (moderateSecond : second.IsModerate) (value : ℤ) :
    (∃ reading amount, (first.apply (Number.int value) >>= second.unapply) = .ok reading ∧
      reading.exact? = some amount ∧
      IsNear (2 * first.steps.length + 2 * second.steps.length)
        (second.inverse.reach (first.reach |(value : ℚ)|))
        (second.inverse.image (first.image value)) amount) ∨
    Lost (first.apply (Number.int value) >>= second.unapply) ∧ 10 ^ 250 < |value| := by
  have backward := moderateSecond.steady.inverse moderateSecond.increasing
  have unapplied : (second.unapply : Number → Result Number) = second.inverse.apply :=
    funext fun base => (apply_inverse second base).symm
  have sameLength : second.inverse.steps.length = second.steps.length := by simp [inverse]
  rw [unapplied]
  rcases moderateFirst.apply_near value with ⟨base, amount, applied, given, near⟩ | ⟨lost, large⟩
  · have shortFirst := moderateFirst.short
    have shortSecond := moderateSecond.short
    have ran := moderateSecond.backward.run moderateSecond.increasing.inverse backward given near
      (by omega) (moderateFirst.reach_eq_zero_or_le value) (by norm_num) (by positivity)
      (by positivity) (by norm_num)
    rw [sameLength] at ran
    rw [applied, Result.ok_bind]
    rcases ran with ended | ⟨lost, large⟩
    · exact .inl ended
    · refine .inr ⟨lost, ?_⟩
      by_contra small
      have within : |(value : ℚ)| ≤ 10 ^ 250 := by exact_mod_cast not_lt.mp small
      have reached := moderateFirst.forward.upper moderateFirst.increasing List.prefix_rfl
        (by norm_num) within
      exact absurd reached (not_le.mpr (large _ (by norm_num) le_rfl))
  · exact .inr ⟨lost_bind backward lost, large⟩

end Pipeline
end Metrology
