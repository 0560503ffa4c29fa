import Mathlib
import Metrology.Proofs.Ratio.Exponents

/-!
Ratios of integers and names obey the laws of an abelian group, with equality of
texts for equality. A construction may fail, because a text cannot always be
written; a law relates the ratios that both of its sides give. Each side is read as
exponents, and the law is then one of integers.
-/

namespace Metrology
namespace Ratio

/-- Two constructions agree when they give equal ratios, wherever both give one. -/
def Agree (left right : Result (Ratio Number)) : Prop :=
  ∀ first second, left = .ok first → right = .ok second → first.equals second = true

/-- Whatever a construction gives has these exponents. -/
def Yields (construction : Result (Ratio Number)) (exponents : Exponents) : Prop :=
  ∀ ratio, construction = .ok ratio → ratio.HasExponents exponents

theorem HasExponents.yields {ratio : Ratio Number} {exponents : Exponents}
    (has : ratio.HasExponents exponents) : Yields (.ok ratio) exponents := by
  intro same made
  cases made
  exact has

namespace Yields

variable {left right : Result (Ratio Number)} {first second : Exponents}

theorem times (yieldsLeft : Yields left first) (yieldsRight : Yields right second) :
    Yields (do (← left).times (← right)) (first + second) := by
  intro product made
  rcases Result.bind_eq_ok.mp made with ⟨leftRatio, leftMade, rest⟩
  rcases Result.bind_eq_ok.mp rest with ⟨rightRatio, rightMade, multiplied⟩
  exact (yieldsLeft leftRatio leftMade).times (yieldsRight rightRatio rightMade) multiplied

theorem divide (yieldsLeft : Yields left first) (yieldsRight : Yields right second) :
    Yields (do (← left).divide (← right)) (first - second) := by
  intro quotient made
  rcases Result.bind_eq_ok.mp made with ⟨leftRatio, leftMade, rest⟩
  rcases Result.bind_eq_ok.mp rest with ⟨rightRatio, rightMade, divided⟩
  exact (yieldsLeft leftRatio leftMade).divide (yieldsRight rightRatio rightMade) divided

theorem power (yieldsLeft : Yields left first) (exponent : ℤ) :
    Yields (do (← left).power exponent) (exponent • first) := by
  intro power made
  rcases Result.bind_eq_ok.mp made with ⟨leftRatio, leftMade, raised⟩
  exact (yieldsLeft leftRatio leftMade).power raised

/-- Constructions that yield the same exponents agree. -/
theorem agree (yieldsLeft : Yields left first) (yieldsRight : Yields right second)
    (same : first = second) : Agree left right := by
  subst same
  intro leftRatio rightRatio leftMade rightMade
  exact (yieldsLeft leftRatio leftMade).equals (yieldsRight rightRatio rightMade)

end Yields

/-! ## Laws where success is certain -/

/-- Two factors can be multiplied in one order when they can in the other, and fail
with the same fault. -/
theorem map_text_times_comm {left right : Ratio Number} (integralLeft : left.IsIntegral)
    (integralRight : right.IsIntegral) :
    (left.times right).map Ratio.text = (right.times left).map Ratio.text := by
  rcases integralLeft with ⟨_, hasLeft⟩
  rcases integralRight with ⟨_, hasRight⟩
  rcases hasLeft.parts with ⟨literal, symbolic, leftParts, _⟩
  rcases hasRight.parts with ⟨otherLiteral, otherSymbolic, rightParts, _⟩
  rw [Ratio.times, Ratio.times, leftParts, rightParts, Parts.ofIntegers_times,
    Parts.ofIntegers_times]
  apply map_text_ofParts_eq
  simp only [Fraction.exponent_times]
  rw [add_comm literal.exponent, add_comm symbolic.exponent]

/-- Multiplying by the ratio of nothing always succeeds. -/
theorem exists_times_one {ratio : Ratio Number} (integral : ratio.IsIntegral) :
    ∃ product, ratio.times one = .ok product ∧ product.equals ratio = true := by
  rcases integral with ⟨exponents, has⟩
  rcases has with ⟨literal, symbolic, made, same⟩
  have parts : ratio.toParts = .ofIntegers literal.cancel symbolic.cancel := by
    rw [toParts_of_ofParts made, Parts.cancel_ofIntegers]
  have multiplied : ratio.times one =
      ofParts (.ofIntegers (literal.cancel.times .empty) (symbolic.cancel.times .empty)) := by
    rw [Ratio.times, parts]
    exact congrArg ofParts (Parts.ofIntegers_times literal.cancel .empty symbolic.cancel .empty)
  have texts : (ofParts (.ofIntegers (literal.cancel.times .empty)
      (symbolic.cancel.times .empty))).map Ratio.text =
      (ofParts (.ofIntegers literal symbolic)).map Ratio.text := map_text_ofParts_eq (by simp)
  rw [← multiplied, made] at texts
  cases result : ratio.times one with
  | error fault =>
      rw [result] at texts
      cases texts
  | ok product =>
      rw [result] at texts
      have text : product.text = ratio.text := Except.ok.inj texts
      exact ⟨product, rfl, by simp [equals, text]⟩

/-! ## The laws -/

/-- The laws of an abelian group at three ratios and two exponents. -/
structure GroupLaws (a b c : Ratio Number) (m n : ℤ) : Prop where
  commutative : Agree (a.times b) (b.times a)
  sameOutcome : (a.times b).map Ratio.text = (b.times a).map Ratio.text
  associative : Agree (do (← a.times b).times c) (do a.times (← b.times c))
  identity : ∃ product, a.times one = .ok product ∧ product.equals a = true
  cancellation : Agree (do (← a.divide b).times b) (.ok a)
  division : Agree (a.divide b) (do a.times (← b.power (-1)))
  powerSum : Agree (do (← a.power m).times (← a.power n)) (a.power (m + n))
  powerProduct : Agree (do (← a.power m).power n) (a.power (m * n))
  powerDistributes :
    Agree (do (← a.times b).power n) (do (← a.power n).times (← b.power n))

/-- Ratios of integers and names form an abelian group. -/
theorem abelian_group_laws (a b c : Ratio Number) (integralA : a.IsIntegral)
    (integralB : b.IsIntegral) (integralC : c.IsIntegral) (m n : ℤ) :
    GroupLaws a b c m n := by
  rcases integralA with ⟨exponentsA, hasA⟩
  rcases integralB with ⟨exponentsB, hasB⟩
  rcases integralC with ⟨exponentsC, hasC⟩
  have yieldsA := hasA.yields
  have yieldsB := hasB.yields
  have yieldsC := hasC.yields
  have powersOfB (exponent : ℤ) : Yields (b.power exponent) (exponent • exponentsB) :=
    yieldsB.power exponent
  exact {
    commutative := (yieldsA.times yieldsB).agree (yieldsB.times yieldsA) (add_comm _ _)
    sameOutcome := map_text_times_comm ⟨_, hasA⟩ ⟨_, hasB⟩
    associative := ((yieldsA.times yieldsB).times yieldsC).agree
      (yieldsA.times (yieldsB.times yieldsC)) (add_assoc _ _ _)
    identity := exists_times_one ⟨_, hasA⟩
    cancellation := ((yieldsA.divide yieldsB).times yieldsB).agree yieldsA (sub_add_cancel _ _)
    division := (yieldsA.divide yieldsB).agree (yieldsA.times (powersOfB (-1)))
      (by rw [neg_one_zsmul, sub_eq_add_neg])
    powerSum := ((yieldsA.power m).times (yieldsA.power n)).agree (yieldsA.power (m + n))
      (add_zsmul _ _ _).symm
    powerProduct := ((yieldsA.power m).power n).agree (yieldsA.power (m * n))
      (by rw [← mul_zsmul, mul_comm])
    powerDistributes := ((yieldsA.times yieldsB).power n).agree
      ((yieldsA.power n).times (yieldsB.power n)) (zsmul_add _ _ _) }

/-- The laws at `1/2 x^2/z`, `-3 y` and `4/3 z`, with a positive and a negative exponent. -/
theorem abelian_group_laws_mixed_signs :
    let half : Ratio Number := ⟨⟨⟨[], [2]⟩, ⟨["x", "x"], ["z"]⟩⟩, "1/2 x^2/z"⟩
    let minusThree : Ratio Number := ⟨⟨⟨[.int (-1), 3], []⟩, ⟨["y"], []⟩⟩, "-3 y"⟩
    let fourThirds : Ratio Number := ⟨⟨⟨[2, 2], [3]⟩, ⟨["z"], []⟩⟩, "4/3 z"⟩
    half.IsIntegral ∧ minusThree.IsIntegral ∧ fourThirds.IsIntegral ∧
      GroupLaws half minusThree fourThirds 2 (-3) := by
  intro half minusThree fourThirds
  have integralHalf : half.IsIntegral :=
    isIntegral_ofTerms [.literal 2, .name "x", .name "x", .name "y"]
      [.name "y", .literal 4, .name "z"]
      (by simp [Term.IsInteger]) (by simp [Term.IsInteger]) (by decide +kernel)
  have integralMinusThree : minusThree.IsIntegral :=
    isIntegral_ofTerms [.literal (.int (-3)), .name "y"] []
      (by simp [Term.IsInteger]) (by simp) (by decide +kernel)
  have integralFourThirds : fourThirds.IsIntegral :=
    isIntegral_ofTerms [.literal 4, .name "z"] [.literal 3]
      (by simp [Term.IsInteger]) (by simp [Term.IsInteger]) (by decide +kernel)
  exact ⟨integralHalf, integralMinusThree, integralFourThirds,
    abelian_group_laws half minusThree fourThirds integralHalf integralMinusThree
      integralFourThirds 2 (-3)⟩

end Ratio
end Metrology
