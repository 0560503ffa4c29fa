import Mathlib
import Metrology.Proofs.Fraction.Powers
import Metrology.Proofs.Ratio.Exponents

/-!
Powers of ratios. As long as no literal differs from itself, a ratio is settled: its powers
repeat every literal and every name in its place, and the product of two of them is the power
with the sum of their exponents, term for term, whichever stands first. A power exists when it
and all lower ones can be written.
-/

namespace Metrology

/-! ## Runs of steps that may fail -/

/-- A step that leads from each value of a sequence to the next one: a run of steps has a
result when all the values on the way exist. -/
theorem Result.run_eq_ok {α : Type} {step : α → Result α} {run : α → ℕ → Result α}
    (stop : ∀ value, run value 0 = .ok value)
    (go : ∀ value count, run value (count + 1) = step value >>= fun next => run next count)
    (values : ℕ → Result α)
    (advances : ∀ {index value}, values index = .ok value → step value = values (index + 1))
    (index : ℕ) {value last : α} (start : values index = .ok value) (count : ℕ) :
    run value count = .ok last ↔
      (∀ more ≤ count, ∃ reached, values (index + more) = .ok reached) ∧
        values (index + count) = .ok last := by
  induction count generalizing index value with
  | zero =>
      rw [stop, add_zero, start]
      refine ⟨fun same => ⟨fun more none => ⟨value, ?_⟩, same⟩, And.right⟩
      rw [Nat.le_zero.mp none, add_zero, start]
  | succ count induction =>
      have later (more : ℕ) : index + (more + 1) = index + 1 + more := by omega
      rw [go, advances start, Result.bind_eq_ok, later count]
      constructor
      · rintro ⟨next, reached, rest⟩
        rcases (induction _ reached).mp rest with ⟨all, final⟩
        refine ⟨fun more within => ?_, final⟩
        cases more with
        | zero => exact ⟨value, start⟩
        | succ more =>
            rw [later]
            exact all more (by omega)
      · rintro ⟨all, final⟩
        rcases all 1 (by omega) with ⟨next, reached⟩
        refine ⟨next, reached, (induction _ reached).mpr ⟨fun more within => ?_, final⟩⟩
        rw [← later]
        exact all (more + 1) (by omega)

/-! ## Literals -/

theorem compare?_swap_beq (order : Option Ordering) :
    (order.map Ordering.swap == some .eq) = (order == some .eq) := by
  rcases order with none | order
  · rfl
  · cases order <;> rfl

namespace Binary64

theorem map_swap_compare? (left right : Binary64) :
    (left.compare? right).map Ordering.swap = right.compare? left := by
  cases left with
  | nan mark => cases right <;> rfl
  | infinite negative =>
      cases right with
      | nan mark => rfl
      | infinite other => cases negative <;> cases other <;> rfl
      | finite other quanta => cases negative <;> rfl
  | finite negative quanta =>
      cases right with
      | nan mark => rfl
      | infinite other => cases other <;> rfl
      | finite other more => exact congrArg some (Int.compare_swap _ _)

end Binary64

namespace Number

theorem map_swap_compare? (left right : Number) :
    (left.compare? right).map Ordering.swap = right.compare? left := by
  cases left with
  | int value =>
      cases right with
      | int other => exact congrArg some (Int.compare_swap _ _)
      | float other => rfl
  | float value =>
      cases right with
      | int other =>
          simp [compare?, Function.comp_def]
      | float other => exact Binary64.map_swap_compare? value other

theorem equals_comm (left right : Number) : left.equals right = right.equals left := by
  rw [equals, equals, ← map_swap_compare?, compare?_swap_beq]

theorem beq_comm (left right : Number) : (left == right) = (right == left) := by
  change left.sameTerm right = right.sameTerm left
  unfold sameTerm
  split
  · next mark other =>
      by_cases same : mark = other
      · rw [same]
      · rw [beq_false_of_ne same, beq_false_of_ne (Ne.symm same), Bool.false_and, Bool.false_and]
  · next apart =>
      split
      · next mark other => exact (apart other mark rfl rfl).elim
      · exact equals_comm left right

/-- Numbers that are not `nan`. -/
def IsOrdered : Number → Prop
  | .float (.nan _) => False
  | _ => True

instance : DecidablePred IsOrdered
  | .float (.nan _) => .isFalse not_false
  | .float (.infinite _) => .isTrue trivial
  | .float (.finite ..) => .isTrue trivial
  | .int _ => .isTrue trivial

theorem IsOrdered.beq_self {number : Number} (ordered : number.IsOrdered) :
    (number == number) = true := by
  have equal : number.equals number = true := by
    cases number with
    | int value => simp [equals, compare?]
    | float value =>
        cases value with
        | nan mark => exact ordered.elim
        | infinite negative => simp [equals, compare?, Binary64.compare?]
        | finite negative quanta => simp [equals, compare?, Binary64.compare?]
  change number.sameTerm number = true
  unfold sameTerm
  split
  · exact ordered.elim
  · exact equal

end Number

/-! ## Parts -/

namespace Parts

variable {ν : Type}

/-- The parts with every literal and every name in its place repeated so many times. -/
def repeated (count : ℕ) (parts : Parts ν) : Parts ν :=
  ⟨parts.literal.repeated count, parts.symbolic.repeated count⟩

@[simp] theorem repeated_one (parts : Parts ν) : parts.repeated 1 = parts := by
  rw [repeated, Fraction.repeated_one, Fraction.repeated_one]

variable [Literal ν]

structure IsSettled (parts : Parts ν) : Prop where
  literal : parts.literal.IsSettled
  symbolic : parts.symbolic.IsSettled

theorem IsSettled.cancel_times {parts : Parts ν} (settled : parts.IsSettled) {first : ℕ}
    (positive : 0 < first) (second : ℕ) :
    ((parts.repeated first).times (parts.repeated second)).cancel =
      parts.repeated (first + second) :=
  congrArg₂ Parts.mk (settled.literal.cancel_times positive second)
    (settled.symbolic.cancel_times positive second)

theorem isSettled_cancel {parts : Parts Number}
    (ordered : ∀ literal ∈ parts.cancel.literal.above ++ parts.cancel.literal.below,
      literal.IsOrdered) : parts.cancel.IsSettled where
  literal := Fraction.isSettled_cancel Number.beq_comm fun literal member =>
    (ordered literal member).beq_self
  symbolic := Fraction.isSettled_cancel (fun _ _ => BEq.comm) fun name _ => beq_self_eq_true name

end Parts

/-! ## Ratios -/

namespace Ratio

section Settled

variable {ν : Type} [Literal ν] {ratio left right power : Ratio ν}

/-- The ratio with every literal and every name in its place repeated so many times, which can
be too large to be written. -/
def repeated (count : ℕ) (ratio : Ratio ν) : Result (Ratio ν) := do
  return ⟨ratio.toParts.repeated count, ← (ratio.toParts.repeated count).text⟩

theorem toParts_of_repeated {count : ℕ} (made : ratio.repeated count = .ok power) :
    power.toParts = ratio.toParts.repeated count := by
  rcases Result.bind_eq_ok.mp made with ⟨text, _, same⟩
  cases same
  rfl

/-- Ratios with settled parts and with the text that these have. -/
structure IsSettled (ratio : Ratio ν) : Prop where
  parts : ratio.toParts.IsSettled
  written : ratio.toParts.text = .ok ratio.text

namespace IsSettled

variable (settled : ratio.IsSettled)

include settled

theorem repeated_one : ratio.repeated 1 = .ok ratio := by
  rw [Ratio.repeated, Parts.repeated_one, settled.written]
  rfl

/-- Two powers multiply to a power. -/
theorem times_repeated {first second : ℕ} (positive : 0 < first)
    (leftMade : ratio.repeated first = .ok left) (rightMade : ratio.repeated second = .ok right) :
    left.times right = ratio.repeated (first + second) := by
  rw [times, ofParts, toParts_of_repeated leftMade, toParts_of_repeated rightMade,
    settled.parts.cancel_times positive, repeated]

/-- A power repeats every term in its place, and exists when all lower ones do. -/
theorem powerNat_eq_ok (count : ℕ) :
    ratio.powerNat (count + 1) = .ok power ↔
      (∀ more ≤ count, ∃ lower, ratio.repeated (more + 1) = .ok lower) ∧
        ratio.repeated (count + 1) = .ok power := by
  rw [powerNat]
  have steps : ratio.multiplyOn ratio count = .ok power ↔ _ :=
    Result.run_eq_ok (fun _ => rfl) (fun _ _ => rfl) (fun index => ratio.repeated (index + 1))
      (fun made => settled.times_repeated (Nat.succ_pos _) made settled.repeated_one) 0
      settled.repeated_one count
  simpa only [zero_add] using steps

end IsSettled

end Settled

/-- Ratios that were written from some parts and hold no `nan`. -/
structure IsOrdered (ratio : Ratio Number) : Prop where
  written : ∃ parts, ofParts parts = .ok ratio
  literals : ∀ literal ∈ ratio.literal.above ++ ratio.literal.below, literal.IsOrdered

theorem IsOrdered.isSettled {ratio : Ratio Number} (ordered : ratio.IsOrdered) :
    ratio.IsSettled := by
  rcases ordered.written with ⟨parts, made⟩
  rcases Result.bind_eq_ok.mp made with ⟨text, written, same⟩
  cases same
  exact ⟨Parts.isSettled_cancel ordered.literals, written⟩

end Ratio
end Metrology
