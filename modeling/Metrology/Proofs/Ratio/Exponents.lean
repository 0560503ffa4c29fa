import Mathlib
import Metrology.Proofs.Ratio.Rendering

/-!
Ratios of integers and names, read as exponents. Every integer factor and every name
has an integer exponent; multiplying ratios adds exponents, dividing subtracts them,
and a power multiplies them. Ratios with the same exponents are equal, and a ratio
whose integers all cancel can always be written.
-/

namespace Metrology

/-- The exponents of integer factors, and those of names. They form an additive group. -/
abbrev Exponents : Type := (ℤ → ℤ) × (String → ℤ)

namespace Parts

@[simp] theorem ofIntegers_times (left right : Fraction ℤ) (leftNames rightNames : Fraction String) :
    (ofIntegers left leftNames).times (ofIntegers right rightNames) =
      ofIntegers (left.times right) (leftNames.times rightNames) := by
  simp [ofIntegers, times, Fraction.times, Fraction.map]

@[simp] theorem ofIntegers_inverse (literal : Fraction ℤ) (symbolic : Fraction String) :
    (ofIntegers literal symbolic).inverse = ofIntegers literal.inverse symbolic.inverse := rfl

end Parts

namespace Ratio

/-! ## Ratios with given exponents -/

/-- A ratio that was written from integers and names in which every factor and every
name has the given exponent. -/
def HasExponents (ratio : Ratio Number) (exponents : Exponents) : Prop :=
  ∃ (literal : Fraction ℤ) (symbolic : Fraction String),
    ofParts (.ofIntegers literal symbolic) = .ok ratio ∧
      (literal.exponent, symbolic.exponent) = exponents

/-- Ratios of integers and names. However one was built, as a fraction of terms, as a
product, as a quotient or as a power, it was written from some such parts. -/
def IsIntegral (ratio : Ratio Number) : Prop := ∃ exponents, ratio.HasExponents exponents

theorem ofParts_eq (parts : Parts Number) :
    ofParts parts = parts.cancel.text.map fun text => ⟨parts.cancel, text⟩ := by
  cases written : parts.cancel.text with
  | ok text => simp [ofParts, written, Except.map]
  | error fault => simp [ofParts, written, Except.map]

theorem map_text_ofParts (parts : Parts Number) :
    (ofParts parts).map Ratio.text = parts.cancel.text := by
  rw [ofParts_eq]
  cases parts.cancel.text with
  | ok text => rfl
  | error fault => rfl

/-- A ratio keeps its parts cancelled. -/
theorem toParts_of_ofParts {parts : Parts Number} {ratio : Ratio Number}
    (made : ofParts parts = .ok ratio) : ratio.toParts = parts.cancel := by
  rw [ofParts_eq] at made
  cases written : parts.cancel.text with
  | ok text =>
      rw [written] at made
      cases made
      rfl
  | error fault =>
      rw [written] at made
      cases made

/-- The parts that a ratio keeps have its exponents as well. -/
theorem HasExponents.parts {ratio : Ratio Number} {exponents : Exponents}
    (has : ratio.HasExponents exponents) :
    ∃ (literal : Fraction ℤ) (symbolic : Fraction String),
      ratio.toParts = .ofIntegers literal symbolic ∧
        (literal.exponent, symbolic.exponent) = exponents := by
  rcases has with ⟨literal, symbolic, made, same⟩
  refine ⟨literal.cancel, symbolic.cancel, ?_, ?_⟩
  · rw [toParts_of_ofParts made, Parts.cancel_ofIntegers]
  · simpa using same

/-- The names of a ratio have the exponents that the ratio has. -/
theorem HasExponents.symbolic {ratio : Ratio Number} {exponents : Exponents}
    (has : ratio.HasExponents exponents) : ratio.symbolic.exponent = exponents.2 := by
  rcases has.parts with ⟨literal, symbolic, parts, same⟩
  rw [parts, ← same]
  rfl

/-- What decides whether a ratio can be written, and how, is its exponents. -/
theorem map_text_ofParts_eq {left right : Fraction ℤ} {leftNames rightNames : Fraction String}
    (same : (left.exponent, leftNames.exponent) = (right.exponent, rightNames.exponent)) :
    (ofParts (.ofIntegers left leftNames)).map Ratio.text =
      (ofParts (.ofIntegers right rightNames)).map Ratio.text := by
  rw [map_text_ofParts, map_text_ofParts]
  exact Parts.text_cancel_eq (congrArg Prod.fst same) (congrArg Prod.snd same)

/-- Ratios with the same exponents are equal. -/
theorem HasExponents.equals {left right : Ratio Number} {exponents : Exponents}
    (hasLeft : left.HasExponents exponents) (hasRight : right.HasExponents exponents) :
    left.equals right = true := by
  rcases hasLeft with ⟨literal, symbolic, madeLeft, sameLeft⟩
  rcases hasRight with ⟨otherLiteral, otherSymbolic, madeRight, sameRight⟩
  have texts := map_text_ofParts_eq (sameLeft.trans sameRight.symm)
  rw [madeLeft, madeRight] at texts
  have text : left.text = right.text := Except.ok.inj texts
  simp [Ratio.equals, text]

end Ratio

/-! ## Terms -/

/-- Terms that are integers or names. -/
def Term.IsInteger : Term Number → Prop
  | .literal (.int _) => True
  | .literal (.float _) => False
  | .name _ => True

theorem Term.literals_of_isInteger {term : Term Number} (integer : term.IsInteger)
    {factor : Number} (member : factor ∈ term.literals) : factor ∈ Set.range Number.int := by
  cases term with
  | name value => cases member
  | literal value =>
      cases value with
      | float value => exact False.elim integer
      | int value =>
          have factors : factor ∈ Number.factors (.int value) := List.mem_of_mem_filter member
          by_cases zero : value = 0
          · simp only [Number.factors, Number.normalize, zero, if_true,
              List.mem_singleton] at factors
            exact ⟨0, factors.symm⟩
          · simp only [Number.factors, Number.normalize, zero, if_false, List.mem_map] at factors
            rcases factors with ⟨prime, _, equal⟩
            exact ⟨prime, equal⟩

namespace Ratio

/-- The literals that integer terms bring into a ratio are integers. -/
theorem exists_integers {terms : List (Term Number)} (integer : ∀ term ∈ terms, term.IsInteger) :
    ∃ integers : List ℤ, integers.map Number.int = terms.flatMap Term.literals := by
  have range : terms.flatMap Term.literals ∈ Set.range (List.map Number.int) := by
    rw [Set.range_list_map]
    intro factor member
    rcases List.mem_flatMap.mp member with ⟨term, termMember, factorMember⟩
    exact Term.literals_of_isInteger (integer term termMember) factorMember
  exact range

theorem isIntegral_ofTerms (above below : List (Term Number)) {ratio : Ratio Number}
    (integerAbove : ∀ term ∈ above, term.IsInteger)
    (integerBelow : ∀ term ∈ below, term.IsInteger)
    (made : ofTerms above below = .ok ratio) : ratio.IsIntegral := by
  rcases exists_integers integerAbove with ⟨numerators, aboveEqual⟩
  rcases exists_integers integerBelow with ⟨denominators, belowEqual⟩
  refine ⟨_, ⟨numerators, denominators⟩,
    ⟨above.flatMap Term.names, below.flatMap Term.names⟩, ?_, rfl⟩
  rw [Parts.ofIntegers, Fraction.map, aboveEqual, belowEqual]
  exact made

/-! ## Algebra -/

theorem hasExponents_one : (one : Ratio Number).HasExponents 0 := by
  refine ⟨.empty, .empty, ?_, by simp⟩
  decide +kernel

theorem HasExponents.times {left right product : Ratio Number} {first second : Exponents}
    (hasLeft : left.HasExponents first) (hasRight : right.HasExponents second)
    (made : left.times right = .ok product) : product.HasExponents (first + second) := by
  rcases hasLeft.parts with ⟨literal, symbolic, leftParts, rfl⟩
  rcases hasRight.parts with ⟨otherLiteral, otherSymbolic, rightParts, rfl⟩
  rw [Ratio.times, leftParts, rightParts, Parts.ofIntegers_times] at made
  exact ⟨_, _, made, by simp⟩

theorem HasExponents.divide {left right quotient : Ratio Number} {first second : Exponents}
    (hasLeft : left.HasExponents first) (hasRight : right.HasExponents second)
    (made : left.divide right = .ok quotient) : quotient.HasExponents (first - second) := by
  rcases hasLeft.parts with ⟨literal, symbolic, leftParts, rfl⟩
  rcases hasRight.parts with ⟨otherLiteral, otherSymbolic, rightParts, rfl⟩
  rw [Ratio.divide, leftParts, rightParts, Parts.ofIntegers_inverse,
    Parts.ofIntegers_times] at made
  exact ⟨_, _, made, by simp [sub_eq_add_neg]⟩

theorem HasExponents.multiplyOn {ratio : Ratio Number} {exponents : Exponents}
    (has : ratio.HasExponents exponents) (count : ℕ) {start power : Ratio Number}
    {initial : Exponents} (hasStart : start.HasExponents initial)
    (made : ratio.multiplyOn start count = .ok power) :
    power.HasExponents (initial + count • exponents) := by
  induction count generalizing start initial with
  | zero =>
      cases made
      simpa using hasStart
  | succ count induction =>
      rcases Result.bind_eq_ok.mp made with ⟨next, multiplied, remaining⟩
      have total := induction (hasStart.times has multiplied) remaining
      rwa [add_assoc, ← succ_nsmul'] at total

theorem HasExponents.powerNat {ratio power : Ratio Number} {exponents : Exponents}
    (has : ratio.HasExponents exponents) {count : ℕ}
    (made : ratio.powerNat count = .ok power) : power.HasExponents (count • exponents) := by
  cases count with
  | zero =>
      cases made
      simpa using hasExponents_one
  | succ count =>
      have total := has.multiplyOn count has made
      rwa [← succ_nsmul'] at total

theorem HasExponents.power {ratio power : Ratio Number} {exponents : Exponents}
    (has : ratio.HasExponents exponents) {exponent : ℤ}
    (made : ratio.power exponent = .ok power) : power.HasExponents (exponent • exponents) := by
  by_cases negative : exponent < 0
  · rw [Ratio.power, if_pos negative] at made
    rcases Result.bind_eq_ok.mp made with ⟨reciprocal, multiplied, divided⟩
    have total := hasExponents_one.divide (has.powerNat multiplied) divided
    rwa [zero_sub, ← natCast_zsmul, ← neg_zsmul,
      show -(exponent.natAbs : ℤ) = exponent by omega] at total
  · rw [Ratio.power, if_neg negative] at made
    have total := has.powerNat made
    rwa [← natCast_zsmul, show (exponent.toNat : ℤ) = exponent by omega] at total

/-! ## Names alone

Where the exponents of all integers are zero, nothing but names is left, and a text
of names can always be written. -/

/-- Ratios made of names only. -/
def IsSymbolic (ratio : Ratio Number) : Prop := ∃ names : Fraction String, ratio = ofNames names

theorem ofParts_of_balanced {literal : Fraction ℤ} (balanced : literal.exponent = 0)
    (symbolic : Fraction String) :
    ofParts (.ofIntegers literal symbolic) = .ok (ofNames symbolic) := by
  have parts : (Parts.ofIntegers literal symbolic).cancel = ⟨.empty, symbolic.cancel⟩ := by
    rw [Parts.cancel_ofIntegers, Fraction.cancel_eq_empty balanced]
    rfl
  rw [ofParts_eq, parts, Parts.text_symbolic]
  rfl

/-- Having no integer exponents is being made of names only. -/
theorem hasExponents_names_iff {ratio : Ratio Number} {exponents : String → ℤ} :
    ratio.HasExponents (0, exponents) ↔
      ∃ names : Fraction String, names.exponent = exponents ∧ ratio = ofNames names := by
  constructor
  · rintro ⟨literal, symbolic, made, same⟩
    refine ⟨symbolic, congrArg Prod.snd same, ?_⟩
    rw [ofParts_of_balanced (congrArg Prod.fst same)] at made
    exact (Except.ok.inj made).symm
  · rintro ⟨names, rfl, rfl⟩
    exact ⟨.empty, names, ofParts_of_balanced Fraction.exponent_empty names, by simp⟩

theorem IsSymbolic.hasExponents {ratio : Ratio Number} (symbolic : ratio.IsSymbolic) :
    ratio.HasExponents (0, ratio.symbolic.exponent) := by
  rcases symbolic with ⟨names, rfl⟩
  exact hasExponents_names_iff.mpr ⟨names, by simp [ofNames], rfl⟩

theorem HasExponents.isSymbolic {ratio : Ratio Number} {exponents : String → ℤ}
    (has : ratio.HasExponents (0, exponents)) : ratio.IsSymbolic := by
  rcases hasExponents_names_iff.mp has with ⟨names, _, equal⟩
  exact ⟨names, equal⟩

theorem times_ofNames (left right : Fraction String) :
    (ofNames left : Ratio Number).times (ofNames right) =
      .ok (ofNames (left.cancel.times right.cancel)) :=
  ofParts_of_balanced Fraction.exponent_empty (left.cancel.times right.cancel)

theorem divide_ofNames (left right : Fraction String) :
    (ofNames left : Ratio Number).divide (ofNames right) =
      .ok (ofNames (left.cancel.times right.cancel.inverse)) :=
  ofParts_of_balanced Fraction.exponent_empty (left.cancel.times right.cancel.inverse)

section Names

variable {left right ratio : Ratio Number} {first second exponents : String → ℤ}

theorem HasExponents.exists_times (hasLeft : left.HasExponents (0, first))
    (hasRight : right.HasExponents (0, second)) :
    ∃ product, left.times right = .ok product ∧ product.HasExponents (0, first + second) := by
  rcases hasExponents_names_iff.mp hasLeft with ⟨leftNames, _, rfl⟩
  rcases hasExponents_names_iff.mp hasRight with ⟨rightNames, _, rfl⟩
  have made := times_ofNames leftNames rightNames
  exact ⟨_, made, by simpa using hasLeft.times hasRight made⟩

theorem HasExponents.exists_divide (hasLeft : left.HasExponents (0, first))
    (hasRight : right.HasExponents (0, second)) :
    ∃ quotient, left.divide right = .ok quotient ∧ quotient.HasExponents (0, first - second) := by
  rcases hasExponents_names_iff.mp hasLeft with ⟨leftNames, _, rfl⟩
  rcases hasExponents_names_iff.mp hasRight with ⟨rightNames, _, rfl⟩
  have made := divide_ofNames leftNames rightNames
  exact ⟨_, made, by simpa using hasLeft.divide hasRight made⟩

theorem HasExponents.exists_multiplyOn (has : ratio.HasExponents (0, exponents)) (count : ℕ)
    {start : Ratio Number} {initial : String → ℤ} (hasStart : start.HasExponents (0, initial)) :
    ∃ power, ratio.multiplyOn start count = .ok power := by
  induction count generalizing start initial with
  | zero => exact ⟨start, rfl⟩
  | succ count induction =>
      rcases hasStart.exists_times has with ⟨next, multiplied, hasNext⟩
      rw [Ratio.multiplyOn, multiplied]
      exact induction hasNext

theorem HasExponents.exists_powerNat (has : ratio.HasExponents (0, exponents)) (count : ℕ) :
    ∃ power, ratio.powerNat count = .ok power := by
  cases count with
  | zero => exact ⟨one, rfl⟩
  | succ count => exact has.exists_multiplyOn count has

theorem HasExponents.exists_power (has : ratio.HasExponents (0, exponents)) (exponent : ℤ) :
    ∃ power, ratio.power exponent = .ok power ∧
      power.HasExponents (0, exponent • exponents) := by
  have made : ∃ power, ratio.power exponent = .ok power := by
    by_cases negative : exponent < 0
    · rcases has.exists_powerNat exponent.natAbs with ⟨reciprocal, multiplied⟩
      have hasReciprocal : reciprocal.HasExponents (0, exponent.natAbs • exponents) := by
        simpa using has.powerNat multiplied
      rcases hasExponents_one.exists_divide hasReciprocal with ⟨power, divided, _⟩
      exact ⟨power, by rw [Ratio.power, if_pos negative, multiplied]; exact divided⟩
    · rw [Ratio.power, if_neg negative]
      exact has.exists_powerNat exponent.toNat
  rcases made with ⟨power, made⟩
  exact ⟨power, made, by simpa using has.power made⟩

end Names

end Ratio
end Metrology
