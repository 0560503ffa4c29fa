import Mathlib
import Metrology.Proofs.Conversion.Affine
import Metrology.Proofs.Number.RoundingError

/-!
Conversions as they are run, against conversions read exactly. Every step of a pipeline rounds
twice, and what it takes away from the exact result is measured by how far from zero the steps
may take a magnitude. So a run that stays in the range of doubles ends near the exact result,
and it does stay there unless the steps reach too far.
-/

namespace Metrology

attribute [local irreducible] Binary64.one

open Binary64 (Rounds roundoff roundoff_pos normal normal_pos vast)
open Number (RoundsTwice Yields Lost)

/-! ## Actions -/

namespace Action

variable {action : Action Number} {number : Number} {amount : ℚ}

/-- What an action makes of an amount when nothing is rounded. -/
def image (amount : ℚ) : Action Number → ℚ
  | plus constant => amount + constant.exactValue
  | minus constant => amount - constant.exactValue
  | times constant => amount * constant.exactValue
  | dividedBy constant => amount / constant.exactValue
  | negation => -amount

/-- How far from zero an action takes what is within a distance of zero. -/
def reach (distance : ℚ) : Action Number → ℚ
  | plus constant => distance + |constant.exactValue|
  | minus constant => distance + |constant.exactValue|
  | times constant => distance * |constant.exactValue|
  | dividedBy constant => distance / |constant.exactValue|
  | negation => distance

/-- Actions whose constants are doubles, and scale by anything but zero. -/
def IsSteady : Action Number → Prop
  | plus constant => constant.IsDouble
  | minus constant => constant.IsDouble
  | times constant => constant.IsDouble ∧ constant.exactValue ≠ 0
  | dividedBy constant => constant.IsDouble ∧ constant.exactValue ≠ 0
  | negation => True

instance : DecidablePred IsSteady
  | plus constant => inferInstanceAs (Decidable constant.IsDouble)
  | minus constant => inferInstanceAs (Decidable constant.IsDouble)
  | times constant => inferInstanceAs (Decidable (constant.IsDouble ∧ constant.exactValue ≠ 0))
  | dividedBy constant => inferInstanceAs (Decidable (constant.IsDouble ∧ constant.exactValue ≠ 0))
  | negation => inferInstanceAs (Decidable True)

theorem exact_eq_ok {constant : Number} (isDouble : constant.IsDouble) :
    constant.exact = .ok constant.exactValue := by
  rcases Option.isSome_iff_exists.mp isDouble.1 with ⟨amount, given⟩
  rw [Number.exact, Number.exactValue, given]
  rfl

theorem act_rational (steady : action.IsSteady) (amount : ℚ) :
    Acts.act action amount = .ok (action.image amount) := by
  cases action with
  | plus constant =>
      change constant.exact >>= _ = _
      rw [exact_eq_ok steady]
      rfl
  | minus constant =>
      change constant.exact >>= _ = _
      rw [exact_eq_ok steady]
      rfl
  | times constant =>
      change constant.exact >>= _ = _
      rw [exact_eq_ok steady.1]
      rfl
  | dividedBy constant =>
      change constant.exact >>= _ = _
      rw [exact_eq_ok steady.1]
      exact if_neg steady.2
  | negation => rfl

theorem act_roundsTwice (steady : action.IsSteady) (given : number.exact? = some amount) :
    RoundsTwice (action.image ·) amount (Acts.act action number) := by
  cases action with
  | plus constant => exact Number.add_roundsTwice steady given
  | minus constant => exact Number.sub_roundsTwice steady given
  | times constant => exact Number.mul_roundsTwice steady.1 given
  | dividedBy constant => exact Number.div_roundsTwice steady.1 steady.2 given
  | negation =>
      exact ⟨amount, .refl amount, .inl (Number.yields_of_exact (Number.exact?_negate given))⟩

theorem act_lost (steady : action.IsSteady) (lost : number.exact? = none) :
    Lost (Acts.act action number) := by
  cases action with
  | plus constant => exact Number.add_lost steady lost
  | minus constant => exact Number.sub_lost steady lost
  | times constant => exact Number.mul_lost steady.1 lost
  | dividedBy constant => exact Number.div_lost steady.1 steady.2 lost
  | negation => exact .inr ⟨_, rfl, Number.negate_lost lost⟩

theorem reach_nonneg {distance : ℚ} (notNegative : 0 ≤ distance) (action : Action Number) :
    0 ≤ action.reach distance := by
  cases action with
  | plus constant => exact add_nonneg notNegative (abs_nonneg _)
  | minus constant => exact add_nonneg notNegative (abs_nonneg _)
  | times constant => exact mul_nonneg notNegative (abs_nonneg _)
  | dividedBy constant => exact div_nonneg notNegative (abs_nonneg _)
  | negation => exact notNegative

end Action

/-! ## Nearness -/

/-- How much so many roundings, one after another, may add to an amount of one. -/
def growth (roundings : ℕ) : ℚ := (1 + roundoff) ^ roundings

theorem one_le_growth (roundings : ℕ) : 1 ≤ growth roundings :=
  one_le_pow₀ (le_add_of_nonneg_right roundoff_pos.le)

theorem growth_succ (roundings : ℕ) :
    growth (roundings + 1) = growth roundings + roundoff * growth roundings := by
  rw [growth, growth, pow_succ]
  ring

theorem growth_mono {fewer more : ℕ} (atMost : fewer ≤ more) : growth fewer ≤ growth more :=
  pow_le_pow_right₀ (le_add_of_nonneg_right roundoff_pos.le) atMost

/-- Zero and the distances that doubles measure with all their digits. -/
def Sized (distance : ℚ) : Prop := distance = 0 ∨ normal ≤ distance

/-- An amount that so many roundings have made of an exact one within a distance of zero. -/
structure IsNear (roundings : ℕ) (distance exact amount : ℚ) : Prop where
  within : |exact| ≤ distance
  error : |amount - exact| ≤ (growth roundings - 1) * distance

namespace IsNear

variable {roundings : ℕ} {distance exact amount rounded : ℚ} {action : Action Number}

theorem start (within : |exact| ≤ distance) : IsNear roundings distance exact exact where
  within := within
  error := by
    rw [sub_self, abs_zero]
    exact mul_nonneg (sub_nonneg.mpr (one_le_growth roundings)) ((abs_nonneg exact).trans within)

variable (near : IsNear roundings distance exact amount)

include near

theorem distance_nonneg : 0 ≤ distance := (abs_nonneg exact).trans near.within

theorem abs_le : |amount| ≤ growth roundings * distance := by
  calc |amount| = |amount - exact + exact| := by rw [sub_add_cancel]
    _ ≤ |amount - exact| + |exact| := abs_add_le _ _
    _ ≤ (growth roundings - 1) * distance + distance := add_le_add near.error near.within
    _ = growth roundings * distance := by ring

/-- One more rounding. -/
theorem round (sized : Sized distance) (rounds : Rounds amount rounded) :
    IsNear (roundings + 1) distance exact rounded where
  within := near.within
  error := by
    rcases sized with none | sized
    · have noAmount : amount = 0 :=
        abs_nonpos_iff.mp (near.abs_le.trans (by rw [none, mul_zero]))
      have nothing : exact = 0 := abs_nonpos_iff.mp (near.within.trans none.le)
      rw [rounds.zero noAmount, nothing, none, sub_zero, abs_zero, mul_zero]
    · have reached : max |amount| normal ≤ growth roundings * distance :=
        max_le near.abs_le (sized.trans
          (le_mul_of_one_le_left near.distance_nonneg (one_le_growth roundings)))
      calc |rounded - exact|
          = |(rounded - amount) + (amount - exact)| := by rw [sub_add_sub_cancel]
        _ ≤ |rounded - amount| + |amount - exact| := abs_add_le _ _
        _ ≤ roundoff * (growth roundings * distance) + (growth roundings - 1) * distance :=
            add_le_add (rounds.error.trans (mul_le_mul_of_nonneg_left reached roundoff_pos.le))
              near.error
        _ = (growth (roundings + 1) - 1) * distance := by
            rw [growth_succ]
            ring

/-- An action carried out on both amounts without rounding. -/
theorem image (action : Action Number) :
    IsNear roundings (action.reach distance) (action.image exact) (action.image amount) := by
  have within := near.within
  have slack : 0 ≤ growth roundings - 1 := sub_nonneg.mpr (one_le_growth roundings)
  have shifted (constant : ℚ) :
      (growth roundings - 1) * distance ≤ (growth roundings - 1) * (distance + |constant|) :=
    mul_le_mul_of_nonneg_left (le_add_of_nonneg_right (abs_nonneg constant)) slack
  cases action with
  | plus constant =>
      constructor
      · exact (abs_add_le _ _).trans (add_le_add_left within _)
      · simp only [Action.image, Action.reach, add_sub_add_right_eq_sub]
        exact near.error.trans (shifted _)
  | minus constant =>
      constructor
      · exact (abs_sub _ _).trans (add_le_add_left within _)
      · simp only [Action.image, Action.reach, sub_sub_sub_cancel_right]
        exact near.error.trans (shifted _)
  | times constant =>
      constructor
      · simp only [Action.image, Action.reach, abs_mul]
        gcongr
      · simp only [Action.image, Action.reach, ← sub_mul, abs_mul, ← mul_assoc]
        exact mul_le_mul_of_nonneg_right near.error (abs_nonneg _)
  | dividedBy constant =>
      constructor
      · simp only [Action.image, Action.reach, abs_div]
        gcongr
      · simp only [Action.image, Action.reach, ← sub_div, abs_div, ← mul_div_assoc]
        exact div_le_div_of_nonneg_right near.error (abs_nonneg _)
  | negation =>
      constructor
      · simpa only [Action.image, Action.reach, abs_neg] using within
      · simpa only [Action.image, Action.reach, neg_sub_neg, abs_sub_comm] using near.error

/-- An action on a number that is near leads to a number that is near, unless it leaves the
range of doubles. -/
theorem act {number : Number} (steady : action.IsSteady) (given : number.exact? = some amount)
    (sized : Sized distance) (sizedAfter : Sized (action.reach distance)) :
    (∃ next result, Acts.act action number = .ok next ∧ next.exact? = some result ∧
      IsNear (roundings + 2) (action.reach distance) (action.image exact) result) ∨
    Lost (Acts.act action number) ∧
      (vast ≤ growth (roundings + 2) * distance ∨
        vast ≤ growth (roundings + 2) * action.reach distance) := by
  rcases Action.act_roundsTwice steady given with ⟨operand, rounds, outcome⟩
  have onward := (near.round sized rounds).image action
  have more (amount : ℚ) (notNegative : 0 ≤ amount) {fewer : ℕ} (atMost : fewer ≤ roundings + 2) :
      growth fewer * amount ≤ growth (roundings + 2) * amount :=
    mul_le_mul_of_nonneg_right (growth_mono atMost) notNegative
  rcases outcome with (⟨next, result, made, resultGiven, after⟩ | ⟨lost, large⟩) | ⟨lost, large⟩
  · exact .inl ⟨next, result, made, resultGiven, onward.round sizedAfter after⟩
  · exact .inr ⟨lost, .inr (large.trans (onward.abs_le.trans
      (more _ onward.distance_nonneg (Nat.le_succ _))))⟩
  · exact .inr ⟨lost, .inl (large.trans (near.abs_le.trans
      (more _ near.distance_nonneg (Nat.le_add_right _ _))))⟩

end IsNear

/-! ## Runs -/

namespace Pipeline

variable {pipeline : Pipeline (Action Number)} {steps : List (Step (Action Number))}
  {number : Number}

/-- What a pipeline makes of an amount when nothing is rounded. -/
def image (pipeline : Pipeline (Action Number)) (amount : ℚ) : ℚ :=
  pipeline.steps.foldl (fun current step => step.forward.image current) amount

/-- How far from zero a pipeline takes what is within a distance of zero. -/
def reach (pipeline : Pipeline (Action Number)) (distance : ℚ) : ℚ :=
  pipeline.steps.foldl (fun current step => step.forward.reach current) distance

/-- Pipelines that apply steady actions. -/
def IsSteady (pipeline : Pipeline (Action Number)) : Prop :=
  ∀ step ∈ pipeline.steps, step.forward.IsSteady

instance (pipeline : Pipeline (Action Number)) : Decidable pipeline.IsSteady :=
  inferInstanceAs (Decidable (∀ step ∈ pipeline.steps, step.forward.IsSteady))

theorem IsSteady.tail {step : Step (Action Number)} (steady : IsSteady ⟨step :: steps⟩) :
    IsSteady ⟨steps⟩ := fun later member => steady later (List.mem_cons_of_mem step member)

theorem apply_rational (steady : pipeline.IsSteady) (amount : ℚ) :
    pipeline.apply amount = .ok (pipeline.image amount) := by
  rcases pipeline with ⟨steps⟩
  induction steps generalizing amount with
  | nil => rfl
  | cons step rest induction =>
      rw [apply_cons, Step.apply, Action.act_rational (steady step (List.mem_cons_self ..)),
        Result.ok_bind]
      exact induction _ steady.tail

/-- Work that has left the range of doubles comes to nothing. -/
theorem lost_bind {outcome : Result Number} (steady : pipeline.IsSteady) (lost : Lost outcome) :
    Lost (outcome >>= pipeline.apply) := by
  rcases pipeline with ⟨steps⟩
  induction steps generalizing outcome with
  | nil =>
      rcases lost with rfl | ⟨number, rfl, outside⟩
      · exact .inl rfl
      · exact .inr ⟨number, rfl, outside⟩
  | cons step rest induction =>
      rcases lost with rfl | ⟨number, rfl, outside⟩
      · exact .inl rfl
      · rw [Result.ok_bind, apply_cons]
        exact induction (Action.act_lost (steady step (List.mem_cons_self ..)) outside) steady.tail

/-- A run from a number that is near ends near, unless it leaves the range of doubles, which it
does only after steps that reach too far. -/
theorem run_near (steady : IsSteady ⟨steps⟩) {roundings : ℕ} {distance exact amount : ℚ}
    (sized : ∀ part, part <+: steps → Sized (reach ⟨part⟩ distance))
    (given : number.exact? = some amount) (near : IsNear roundings distance exact amount) :
    (∃ next result, apply ⟨steps⟩ number = .ok next ∧ next.exact? = some result ∧
      IsNear (roundings + 2 * steps.length) (reach ⟨steps⟩ distance) (image ⟨steps⟩ exact) result) ∨
    Lost (apply ⟨steps⟩ number) ∧ ∃ part, part <+: steps ∧
      vast ≤ growth (roundings + 2 * steps.length) * reach ⟨part⟩ distance := by
  induction steps generalizing number roundings distance exact amount with
  | nil => exact .inl ⟨number, amount, rfl, given, near⟩
  | cons step rest induction =>
      have first := steady step (List.mem_cons_self ..)
      have sizedRest (part : List (Step (Action Number))) (prefixed : part <+: rest) :
          Sized (reach ⟨part⟩ (step.forward.reach distance)) :=
        sized (step :: part) (List.cons_prefix_cons.mpr ⟨rfl, prefixed⟩)
      have counted : roundings + 2 + 2 * rest.length = roundings + 2 * (step :: rest).length := by
        rw [List.length_cons]
        ring
      have more {amount : ℚ} (notNegative : 0 ≤ amount) :
          growth (roundings + 2) * amount ≤
            growth (roundings + 2 * (step :: rest).length) * amount :=
        mul_le_mul_of_nonneg_right (growth_mono (by omega)) notNegative
      rw [apply_cons, Step.apply]
      rcases near.act first given (sized [] List.nil_prefix) (sizedRest [] List.nil_prefix) with
        ⟨next, result, made, resultGiven, onward⟩ | ⟨lost, large⟩
      · rw [made, Result.ok_bind, ← counted]
        rcases induction steady.tail sizedRest resultGiven onward with
          ended | ⟨lost, part, prefixed, large⟩
        · exact .inl ended
        · exact .inr ⟨lost, step :: part, List.cons_prefix_cons.mpr ⟨rfl, prefixed⟩, large⟩
      · refine .inr ⟨lost_bind steady.tail lost, ?_⟩
        rcases large with before | after
        · exact ⟨[], List.nil_prefix, before.trans (more near.distance_nonneg)⟩
        · exact ⟨[step], List.cons_prefix_cons.mpr ⟨rfl, List.nil_prefix⟩,
            after.trans (more (Action.reach_nonneg near.distance_nonneg _))⟩

end Pipeline

/-! ## Distances -/

namespace Step

variable {step : Step (Action Number)}

theorem reach_forward (affine : step.IsAffine) (positive : 0 < step.factor) (distance : ℚ) :
    step.forward.reach distance = distance * step.factor + step.forward.reach 0 := by
  cases affine with
  | scale scaling =>
      cases scaling with
      | multiply exact nonzero label =>
          simp only [factor] at positive
          simp only [Action.reach, factor, abs_of_pos positive, zero_mul, add_zero]
      | divide exact nonzero label =>
          simp only [factor, inv_pos] at positive
          simp only [Action.reach, factor, abs_of_pos positive, zero_div, add_zero]
          exact div_eq_mul_inv _ _
  | add exact label => simp only [Action.reach, factor, mul_one, zero_add]
  | subtract exact label => simp only [Action.reach, factor, mul_one, zero_add]

theorem factor_mul_reach_backward (affine : step.IsAffine) (positive : 0 < step.factor)
    (distance : ℚ) :
    step.factor * step.backward.reach distance = distance + step.forward.reach 0 := by
  cases affine with
  | scale scaling =>
      cases scaling with
      | multiply exact nonzero label =>
          simp only [factor] at positive
          simp only [Action.reach, factor, abs_of_pos positive, zero_mul, add_zero]
          exact mul_div_cancel₀ distance positive.ne'
      | divide exact nonzero label =>
          simp only [factor, inv_pos] at positive
          simp only [Action.reach, factor, abs_of_pos positive, zero_div, add_zero]
          rw [mul_comm, mul_inv_cancel_right₀ positive.ne']
  | add exact label => simp only [Action.reach, factor, one_mul, zero_add]
  | subtract exact label => simp only [Action.reach, factor, one_mul, zero_add]

theorem backward_isSteady (affine : step.IsAffine) (steady : step.forward.IsSteady) :
    step.backward.IsSteady := by
  cases affine with
  | scale scaling => cases scaling <;> exact steady
  | add exact label => exact steady
  | subtract exact label => exact steady

end Step

namespace Pipeline

variable {pipeline : Pipeline (Action Number)} {steps part : List (Step (Action Number))}

theorem IsIncreasing.tail {step : Step (Action Number)}
    (increasing : IsIncreasing ⟨step :: steps⟩) : IsIncreasing ⟨steps⟩ :=
  fun later member => increasing later (List.mem_cons_of_mem step member)

theorem IsIncreasing.inverse (increasing : pipeline.IsIncreasing) :
    pipeline.inverse.IsIncreasing :=
  forall_mem_inverse (fun _ ⟨affine, positive⟩ =>
    ⟨affine.inverse, by rw [affine.factor_inverse]; exact inv_pos.mpr positive⟩) increasing

theorem IsSteady.inverse (increasing : pipeline.IsIncreasing) (steady : pipeline.IsSteady) :
    pipeline.inverse.IsSteady := by
  intro step member
  rcases List.mem_map.mp member with ⟨original, originalMember, rfl⟩
  have inside := List.mem_reverse.mp originalMember
  exact Step.backward_isSteady (increasing original inside).1 (steady original inside)

theorem reach_nonneg {distance : ℚ} (notNegative : 0 ≤ distance) : 0 ≤ pipeline.reach distance := by
  rcases pipeline with ⟨steps⟩
  induction steps generalizing distance with
  | nil => exact notNegative
  | cons step rest induction => exact induction (Action.reach_nonneg notNegative step.forward)

/-- From farther away a pipeline reaches as much farther as it scales. -/
theorem IsIncreasing.reach_eq (increasing : pipeline.IsIncreasing) (distance : ℚ) :
    pipeline.reach distance = distance * pipeline.scale + pipeline.reach 0 := by
  rcases pipeline with ⟨steps⟩
  induction steps generalizing distance with
  | nil => simp [reach, scale]
  | cons step rest induction =>
      rcases increasing step (List.mem_cons_self ..) with ⟨affine, positive⟩
      have onward := fun distance => induction distance increasing.tail
      have scaled : scale ⟨step :: rest⟩ = step.factor * scale ⟨rest⟩ := List.prod_cons
      change reach ⟨rest⟩ (step.forward.reach distance) =
        distance * scale ⟨step :: rest⟩ + reach ⟨rest⟩ (step.forward.reach 0)
      rw [onward, onward (step.forward.reach 0), Step.reach_forward affine positive, scaled]
      ring

/-- A distance that is taken back into a unit, seen in the base unit again, has grown by what
the offsets reach. -/
theorem IsIncreasing.scale_mul_reach_inverse (increasing : pipeline.IsIncreasing) (distance : ℚ) :
    pipeline.scale * pipeline.inverse.reach distance = distance + pipeline.reach 0 := by
  rcases pipeline with ⟨steps⟩
  induction steps with
  | nil => simp [reach, scale, Pipeline.inverse]
  | cons step rest induction =>
      rcases increasing step (List.mem_cons_self ..) with ⟨affine, positive⟩
      have scaled : scale ⟨step :: rest⟩ = step.factor * scale ⟨rest⟩ := List.prod_cons
      have last : (Pipeline.inverse ⟨step :: rest⟩).reach distance =
          step.backward.reach ((Pipeline.inverse ⟨rest⟩).reach distance) := by
        rw [Pipeline.inverse, List.reverse_cons, List.map_append, reach, List.foldl_append]
        rfl
      have first : reach ⟨step :: rest⟩ 0 = reach ⟨rest⟩ (step.forward.reach 0) := rfl
      rw [scaled, last, first, increasing.tail.reach_eq, mul_comm step.factor, mul_assoc,
        Step.factor_mul_reach_backward affine positive, mul_add, induction increasing.tail]
      ring

/-- The image of a magnitude is an image that moves as the pipeline scales. -/
theorem IsIncreasing.image_sub_image (increasing : pipeline.IsIncreasing)
    (steady : pipeline.IsSteady) (first second : ℚ) :
    pipeline.image first - pipeline.image second = (first - second) * pipeline.scale := by
  rcases increasing.isAffine.exists_apply with ⟨offset, applies⟩
  have same (amount : ℚ) : pipeline.image amount = amount * pipeline.scale + offset :=
    Except.ok.inj ((apply_rational steady amount).symm.trans (applies amount))
  rw [same, same]
  ring

theorem IsIncreasing.image_image_inverse (increasing : pipeline.IsIncreasing)
    (steady : pipeline.IsSteady) (amount : ℚ) :
    pipeline.image (pipeline.inverse.image amount) = amount := by
  rcases increasing.isAffine.exists_realizes with ⟨map, runs⟩
  have forward (amount : ℚ) : pipeline.image amount = map amount :=
    Except.ok.inj ((apply_rational steady amount).symm.trans (runs amount).1)
  have backward : pipeline.inverse.image amount = map.symm amount := by
    have applied := apply_rational (steady.inverse increasing) amount
    rw [apply_inverse, (runs amount).2] at applied
    exact (Except.ok.inj applied).symm
  rw [forward, backward, Equiv.apply_symm_apply]

/-! ### Spans -/

/-- Pipelines that take a distance of one no farther than between two bounds at any time, and
a distance of zero not below the lower bound, unless it stays zero. -/
def Spans (low high : ℚ) (pipeline : Pipeline (Action Number)) : Prop :=
  ∀ part ∈ pipeline.steps.inits, (reach ⟨part⟩ 0 = 0 ∨ low ≤ reach ⟨part⟩ 0) ∧
    low ≤ reach ⟨part⟩ 1 ∧ reach ⟨part⟩ 1 ≤ high

instance (low high : ℚ) (pipeline : Pipeline (Action Number)) :
    Decidable (pipeline.Spans low high) :=
  inferInstanceAs (Decidable (∀ part ∈ pipeline.steps.inits, _))

variable {low high distance least most : ℚ}

theorem IsIncreasing.of_part (increasing : IsIncreasing ⟨steps⟩) (prefixed : part <+: steps) :
    IsIncreasing ⟨part⟩ := fun step member => increasing step (prefixed.mem member)

section Spans

variable (spans : Spans low high ⟨steps⟩) (increasing : IsIncreasing ⟨steps⟩)
  (prefixed : part <+: steps)

include spans increasing prefixed

theorem Spans.lower (lowNonneg : 0 ≤ low) (leastNonneg : 0 ≤ least) (small : least ≤ 1)
    (start : distance = 0 ∨ least ≤ distance) :
    reach ⟨part⟩ distance = 0 ∨ least * low ≤ reach ⟨part⟩ distance := by
  rcases spans part ((List.mem_inits _ _).mpr prefixed) with ⟨fromZero, fromOne, _⟩
  rcases start with rfl | start
  · exact fromZero.imp_right (le_trans (mul_le_of_le_one_left lowNonneg small))
  · have partIncreasing := increasing.of_part prefixed
    have unmoved : 0 ≤ reach ⟨part⟩ 0 := reach_nonneg le_rfl
    have scaled : least * scale ⟨part⟩ ≤ distance * scale ⟨part⟩ :=
      mul_le_mul_of_nonneg_right start partIncreasing.scale_pos.le
    rw [partIncreasing.reach_eq, one_mul] at fromOne
    refine .inr ?_
    rw [partIncreasing.reach_eq]
    calc least * low ≤ least * (scale ⟨part⟩ + reach ⟨part⟩ 0) :=
          mul_le_mul_of_nonneg_left fromOne leastNonneg
      _ = least * scale ⟨part⟩ + least * reach ⟨part⟩ 0 := mul_add _ _ _
      _ ≤ distance * scale ⟨part⟩ + reach ⟨part⟩ 0 :=
          add_le_add scaled (mul_le_of_le_one_left unmoved small)

theorem Spans.upper (large : 1 ≤ most) (atMost : distance ≤ most) :
    reach ⟨part⟩ distance ≤ most * high := by
  rcases spans part ((List.mem_inits _ _).mpr prefixed) with ⟨_, _, fromOne⟩
  have partIncreasing := increasing.of_part prefixed
  have unmoved : 0 ≤ reach ⟨part⟩ 0 := reach_nonneg le_rfl
  rw [partIncreasing.reach_eq, one_mul] at fromOne
  rw [partIncreasing.reach_eq]
  calc distance * scale ⟨part⟩ + reach ⟨part⟩ 0
      ≤ most * scale ⟨part⟩ + most * reach ⟨part⟩ 0 :=
        add_le_add (mul_le_mul_of_nonneg_right atMost partIncreasing.scale_pos.le)
          (le_mul_of_one_le_left unmoved large)
    _ = most * (scale ⟨part⟩ + reach ⟨part⟩ 0) := (mul_add _ _ _).symm
    _ ≤ most * high := mul_le_mul_of_nonneg_left fromOne (zero_le_one.trans large)

end Spans

end Pipeline
end Metrology
