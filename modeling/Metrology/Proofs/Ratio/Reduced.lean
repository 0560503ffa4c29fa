import Mathlib
import Metrology.Proofs.Number.PrimeFactors
import Metrology.Proofs.Ratio.Exponents

/-!
Ratios in lowest terms. However a ratio comes of integers and names, nothing stands on both
of its sides, its integers are prime, minus one or zero, no name is empty, and equal terms
stand side by side. Such parts are written anew as they are, so that a product made from
parts is the ratio that is made from all terms at once.
-/

namespace Metrology

/-! ## Terms side by side -/

section Grouping

variable {α β : Type}

/-- Lists in which a term that occurs again occurs next. -/
def IsGrouped : List α → Prop
  | [] => True
  | term :: rest => (term ∈ rest → rest.head? = some term) ∧ IsGrouped rest

theorem isGrouped_replicate_append {term : α} {others : List α} (absent : term ∉ others)
    (grouped : IsGrouped others) (count : ℕ) :
    IsGrouped (List.replicate count term ++ others) := by
  induction count with
  | zero => exact grouped
  | succ count induction =>
      refine ⟨fun member => ?_, induction⟩
      cases count with
      | zero => exact absurd member absent
      | succ count => rfl

theorem IsGrouped.map {convert : α → β} (injective : Function.Injective convert) {terms : List α}
    (grouped : IsGrouped terms) : IsGrouped (terms.map convert) := by
  induction terms with
  | nil => trivial
  | cons term rest induction =>
      refine ⟨fun member => ?_, induction grouped.2⟩
      rw [List.mem_map_of_injective injective] at member
      rw [List.head?_map, grouped.1 member]
      rfl

end Grouping

/-! ## Cancelled fractions -/

namespace Fraction

variable {α β : Type} [BEq α] [LawfulBEq α]

/-- Fractions with nothing on both sides and with equal terms side by side. -/
structure IsReduced {α : Type} (fraction : Fraction α) : Prop where
  disjoint : ∀ term ∈ fraction.above, term ∉ fraction.below
  groupedAbove : IsGrouped fraction.above
  groupedBelow : IsGrouped fraction.below

omit [BEq α] [LawfulBEq α] in
theorem mem_terms_of_mem_expand {counts : List (α × ℤ)} {term : α}
    (member : term ∈ expand counts) : term ∈ terms counts := by
  rcases List.mem_flatMap.mp member with ⟨entry, entryMember, replicated⟩
  rw [List.eq_of_mem_replicate replicated]
  exact List.mem_map_of_mem entryMember

omit [BEq α] [LawfulBEq α] in
theorem isGrouped_expand {counts : List (α × ℤ)} (nodup : (terms counts).Nodup) :
    IsGrouped (expand counts) := by
  induction counts with
  | nil => trivial
  | cons entry rest induction =>
      have parts := List.nodup_cons.mp nodup
      exact isGrouped_replicate_append (fun member => parts.1 (mem_terms_of_mem_expand member))
        (induction parts.2) entry.2.toNat

/-- Cancelling leaves every term on one side only, and all of it in one place. -/
theorem isReduced_cancel (fraction : Fraction α) : fraction.cancel.IsReduced where
  disjoint := by
    intro term above below
    have countAbove := List.count_pos_iff.mpr above
    have countBelow := List.count_pos_iff.mpr below
    rw [count_above_cancel] at countAbove
    rw [count_below_cancel] at countBelow
    omega
  groupedAbove := isGrouped_expand fraction.nodup_terms_netCounts
  groupedBelow := by
    refine isGrouped_expand ?_
    rw [terms_map_neg]
    exact fraction.nodup_terms_netCounts

/-- Cancelling brings in no term. -/
theorem mem_of_mem_cancel {fraction : Fraction α} {term : α}
    (member : term ∈ fraction.cancel.above ++ fraction.cancel.below) :
    term ∈ fraction.above ++ fraction.below := by
  rw [List.mem_append] at member ⊢
  rw [← fraction.mem_terms_netCounts term]
  rcases member with above | below
  · exact mem_terms_of_mem_expand above
  · rw [← terms_map_neg]
    exact mem_terms_of_mem_expand below

omit [BEq α] [LawfulBEq α] in
theorem IsReduced.map {fraction : Fraction α} (reduced : fraction.IsReduced) {convert : α → β}
    (injective : Function.Injective convert) : (fraction.map convert).IsReduced where
  disjoint := by
    intro term above below
    rcases List.mem_map.mp above with ⟨original, originalMember, rfl⟩
    exact reduced.disjoint original originalMember
      ((List.mem_map_of_injective injective).mp below)
  groupedAbove := reduced.groupedAbove.map injective
  groupedBelow := reduced.groupedBelow.map injective

end Fraction

theorem Number.int_injective : Function.Injective Number.int := fun _ _ same => Number.int.inj same

/-! ## Parts that are not taken apart -/

/-- Parts that are written from primes and names. -/
structure Parts.IsFactored (parts : Parts Number) : Prop where
  prime : ∀ factor ∈ parts.literal.above ++ parts.literal.below, factor.IsPrimeFactor
  named : ∀ name ∈ parts.symbolic.above ++ parts.symbolic.below, name ≠ ""

namespace Parts.IsFactored

variable {parts left right : Parts Number}

theorem inverse (factored : parts.IsFactored) : parts.inverse.IsFactored where
  prime := fun factor member => factored.prime factor (List.mem_append.mpr
    (List.mem_append.mp member).symm)
  named := fun name member => factored.named name (List.mem_append.mpr
    (List.mem_append.mp member).symm)

theorem times (factoredLeft : left.IsFactored) (factoredRight : right.IsFactored) :
    (left.times right).IsFactored where
  prime := by
    have primeLeft := List.forall_mem_append.mp factoredLeft.prime
    have primeRight := List.forall_mem_append.mp factoredRight.prime
    simp only [Parts.times, Fraction.times, List.forall_mem_append]
    exact ⟨⟨primeLeft.1, primeRight.1⟩, primeLeft.2, primeRight.2⟩
  named := by
    have namedLeft := List.forall_mem_append.mp factoredLeft.named
    have namedRight := List.forall_mem_append.mp factoredRight.named
    simp only [Parts.times, Fraction.times, List.forall_mem_append]
    exact ⟨⟨namedLeft.1, namedRight.1⟩, namedLeft.2, namedRight.2⟩

/-- Factored literals are integers. -/
theorem exists_integers (factored : parts.IsFactored) :
    ∃ literal : Fraction ℤ, literal.map Number.int = parts.literal := by
  have listed {factors : List Number} (prime : ∀ factor ∈ factors, factor.IsPrimeFactor) :
      factors ∈ Set.range (List.map Number.int) := by
    rw [Set.range_list_map]
    exact fun factor member => (prime factor member).exists_int
  rcases listed (List.forall_mem_append.mp factored.prime).1 with ⟨above, aboveEqual⟩
  rcases listed (List.forall_mem_append.mp factored.prime).2 with ⟨below, belowEqual⟩
  refine ⟨⟨above, below⟩, ?_⟩
  rw [Fraction.map, aboveEqual, belowEqual]

end Parts.IsFactored

namespace Ratio

/-- Ratios in lowest terms. -/
structure IsReduced (ratio : Ratio Number) : Prop where
  literal : ratio.literal.IsReduced
  symbolic : ratio.symbolic.IsReduced
  factored : ratio.toParts.IsFactored

theorem isReduced_of_ofParts {parts : Parts Number} {ratio : Ratio Number}
    (factored : parts.IsFactored) (made : ofParts parts = .ok ratio) : ratio.IsReduced := by
  rcases factored.exists_integers with ⟨literal, integers⟩
  -- Numbers that are no integers may differ from themselves; integers cancel like any terms.
  have literals : ratio.literal = literal.cancel.map Number.int := by
    rw [toParts_of_ofParts made, Parts.cancel, ← integers, Fraction.cancel_map Number.int_beq_int]
  have names : ratio.symbolic = parts.symbolic.cancel := by
    rw [toParts_of_ofParts made, Parts.cancel]
  exact {
    literal := by
      rw [literals]
      exact literal.isReduced_cancel.map Number.int_injective
    symbolic := by
      rw [names]
      exact parts.symbolic.isReduced_cancel
    factored := {
      prime := by
        intro factor member
        rw [literals] at member
        simp only [Fraction.map, ← List.map_append] at member
        rcases List.mem_map.mp member with ⟨value, valueMember, rfl⟩
        refine factored.prime _ ?_
        rw [← integers]
        simp only [Fraction.map, ← List.map_append]
        exact List.mem_map_of_mem (Fraction.mem_of_mem_cancel valueMember)
      named := by
        intro name member
        rw [names] at member
        exact factored.named name (Fraction.mem_of_mem_cancel member) } }

/-! ## Terms of a ratio -/

theorem isFactored_ofTerms {above below : List (Term Number)}
    (integerAbove : ∀ term ∈ above, term.IsInteger)
    (integerBelow : ∀ term ∈ below, term.IsInteger) : (Parts.ofTerms above below).IsFactored := by
  have integer : ∀ term ∈ above ++ below, term.IsInteger :=
    List.forall_mem_append.mpr ⟨integerAbove, integerBelow⟩
  constructor
  · intro factor member
    simp only [Parts.ofTerms, ← List.flatMap_append] at member
    rcases List.mem_flatMap.mp member with ⟨term, termMember, factorMember⟩
    cases term with
    | name value => cases factorMember
    | literal value =>
        cases value with
        | float value => exact False.elim (integer _ termMember)
        | int value =>
            exact Number.isPrimeFactor_of_mem_factors (List.mem_of_mem_filter factorMember)
  · intro name member
    simp only [Parts.ofTerms, ← List.flatMap_append] at member
    rcases List.mem_flatMap.mp member with ⟨term, _, nameMember⟩
    cases term with
    | literal value => cases nameMember
    | name value =>
        by_cases blank : value.isEmpty
        · simp [Term.names, blank] at nameMember
        · simp only [Term.names, blank, Bool.false_eq_true, if_false,
            List.mem_singleton] at nameMember
          simpa [nameMember] using blank

/-- The terms of one side of a ratio. -/
def termsOf (factors : List Number) (names : List String) : List (Term Number) :=
  factors.map .literal ++ names.map .name

section Terms

variable {factors : List Number} {names : List String}

theorem flatMap_literals (prime : ∀ factor ∈ factors, factor.IsPrimeFactor) :
    (termsOf factors names).flatMap Term.literals = factors := by
  have fromNames : (names.map Term.name).flatMap (Term.literals (ν := Number)) = [] := by
    simp [Term.literals]
  have single : ∀ factor ∈ factors, (Term.literal factor).literals = [factor] := by
    intro factor member
    rcases (prime factor member).exists_int with ⟨value, rfl⟩
    have notOne : value ≠ 1 := fun one => (prime _ member).ne_one (congrArg Number.int one)
    have kept : (Number.int value == Number.int 1) = false := by
      rw [Number.int_beq_int]
      simpa using notOne
    have split : (Term.literal (Number.int value)).literals =
        [Number.int value].filter fun factor => !(factor == Number.int 1) :=
      congrArg (List.filter _) (prime _ member).factors_eq
    rw [split, List.filter_singleton, kept]
    rfl
  rw [termsOf, List.flatMap_append, fromNames, List.append_nil, List.flatMap_map,
    List.flatMap_congr single]
  exact List.flatMap_singleton' factors

theorem flatMap_names (nonempty : ∀ name ∈ names, name ≠ "") :
    (termsOf factors names).flatMap Term.names = names := by
  have fromFactors : (factors.map Term.literal).flatMap Term.names = [] := by
    simp [Term.names]
  have single : ∀ name ∈ names, (Term.name name : Term Number).names = [name] := by
    intro name member
    simp [Term.names, nonempty name member]
  rw [termsOf, List.flatMap_append, fromFactors, List.nil_append, List.flatMap_map,
    List.flatMap_congr single]
  exact List.flatMap_singleton' names

end Terms

/-- Factored parts that are written out and taken apart again are the same parts. -/
theorem ofTerms_append {first second : Parts Number} (factoredFirst : first.IsFactored)
    (factoredSecond : second.IsFactored) :
    Parts.ofTerms
        (termsOf first.literal.above first.symbolic.above ++
          termsOf second.literal.above second.symbolic.above)
        (termsOf first.literal.below first.symbolic.below ++
          termsOf second.literal.below second.symbolic.below) =
      first.times second := by
  have primeFirst := List.forall_mem_append.mp factoredFirst.prime
  have primeSecond := List.forall_mem_append.mp factoredSecond.prime
  have namedFirst := List.forall_mem_append.mp factoredFirst.named
  have namedSecond := List.forall_mem_append.mp factoredSecond.named
  simp only [Parts.ofTerms, List.flatMap_append, flatMap_literals primeFirst.1,
    flatMap_literals primeFirst.2, flatMap_literals primeSecond.1, flatMap_literals primeSecond.2,
    flatMap_names namedFirst.1, flatMap_names namedFirst.2, flatMap_names namedSecond.1,
    flatMap_names namedSecond.2]
  rfl

variable {left right ratio : Ratio Number}

theorem IsReduced.times_eq_ofTerms (reducedLeft : left.IsReduced) (reducedRight : right.IsReduced) :
    left.times right =
      ofTerms (left.numerator ++ right.numerator) (left.denominator ++ right.denominator) := by
  have parts := ofTerms_append reducedLeft.factored reducedRight.factored
  exact congrArg ofParts parts.symm

theorem IsReduced.divide_eq_ofTerms (reducedLeft : left.IsReduced)
    (reducedRight : right.IsReduced) :
    left.divide right =
      ofTerms (left.numerator ++ right.denominator) (left.denominator ++ right.numerator) := by
  have parts := ofTerms_append reducedLeft.factored reducedRight.factored.inverse
  exact congrArg ofParts parts.symm

/-! ## Algebra -/

namespace IsReduced

variable {product quotient raised : Ratio Number}

theorem times (reducedLeft : left.IsReduced) (reducedRight : right.IsReduced)
    (made : left.times right = .ok product) : product.IsReduced :=
  isReduced_of_ofParts (reducedLeft.factored.times reducedRight.factored) made

theorem divide (reducedLeft : left.IsReduced) (reducedRight : right.IsReduced)
    (made : left.divide right = .ok quotient) : quotient.IsReduced :=
  isReduced_of_ofParts (reducedLeft.factored.times reducedRight.factored.inverse) made

theorem one : (Ratio.one : Ratio Number).IsReduced := by
  have blank : ∀ term ∈ ([] : List (Term Number)), term.IsInteger := by simp
  have made : ofParts (.ofTerms [] []) = .ok (Ratio.one : Ratio Number) := by decide +kernel
  exact isReduced_of_ofParts (isFactored_ofTerms blank blank) made

theorem multiplyOn (reduced : ratio.IsReduced) (count : ℕ) {start : Ratio Number}
    (reducedStart : start.IsReduced) (made : ratio.multiplyOn start count = .ok raised) :
    raised.IsReduced := by
  induction count generalizing start with
  | zero =>
      cases made
      exact reducedStart
  | succ count induction =>
      rcases Result.bind_eq_ok.mp made with ⟨next, multiplied, remaining⟩
      exact induction (reducedStart.times reduced multiplied) remaining

theorem powerNat (reduced : ratio.IsReduced) {count : ℕ}
    (made : ratio.powerNat count = .ok raised) : raised.IsReduced := by
  cases count with
  | zero =>
      cases made
      exact one
  | succ count => exact reduced.multiplyOn count reduced made

theorem power (reduced : ratio.IsReduced) {exponent : ℤ}
    (made : ratio.power exponent = .ok raised) : raised.IsReduced := by
  by_cases negative : exponent < 0
  · rw [Ratio.power, if_pos negative] at made
    rcases Result.bind_eq_ok.mp made with ⟨reciprocal, multiplied, divided⟩
    exact one.divide (reduced.powerNat multiplied) divided
  · rw [Ratio.power, if_neg negative] at made
    exact reduced.powerNat made

end IsReduced

/-! ## Ratios of integers and names -/

/-- Ratios that are written from integers and names, or come of such ratios by multiplying,
dividing or raising to an integer. -/
inductive IsReachable : Ratio Number → Prop
  | ofTerms {above below : List (Term Number)} {ratio : Ratio Number}
      (integerAbove : ∀ term ∈ above, term.IsInteger)
      (integerBelow : ∀ term ∈ below, term.IsInteger)
      (made : Ratio.ofTerms above below = .ok ratio) : IsReachable ratio
  | times {left right product : Ratio Number} (reachableLeft : IsReachable left)
      (reachableRight : IsReachable right) (made : left.times right = .ok product) :
      IsReachable product
  | divide {left right quotient : Ratio Number} (reachableLeft : IsReachable left)
      (reachableRight : IsReachable right) (made : left.divide right = .ok quotient) :
      IsReachable quotient
  | power {base raised : Ratio Number} {exponent : ℤ} (reachableBase : IsReachable base)
      (made : base.power exponent = .ok raised) : IsReachable raised

theorem IsReachable.isReduced (reachable : ratio.IsReachable) : ratio.IsReduced := by
  induction reachable with
  | ofTerms integerAbove integerBelow made =>
      exact isReduced_of_ofParts (isFactored_ofTerms integerAbove integerBelow) made
  | times _ _ made reducedLeft reducedRight => exact reducedLeft.times reducedRight made
  | divide _ _ made reducedLeft reducedRight => exact reducedLeft.divide reducedRight made
  | power _ made reducedBase => exact reducedBase.power made

/-- Ratios of integers and names are in lowest terms, whatever way they were made. Their
product and their quotient, which are put together from factors that are there, are what
comes of all their terms at once: the same ratio, down to the order of its terms, or the same
fault. -/
theorem algebra_eq_ofTerms (left right : Ratio Number) (reachableLeft : left.IsReachable)
    (reachableRight : right.IsReachable) :
    left.IsReduced ∧ right.IsReduced ∧
      left.times right =
        ofTerms (left.numerator ++ right.numerator) (left.denominator ++ right.denominator) ∧
      left.divide right =
        ofTerms (left.numerator ++ right.denominator) (left.denominator ++ right.numerator) := by
  have reducedLeft := reachableLeft.isReduced
  have reducedRight := reachableRight.isReduced
  exact ⟨reducedLeft, reducedRight, reducedLeft.times_eq_ofTerms reducedRight,
    reducedLeft.divide_eq_ofTerms reducedRight⟩

/-- Zero has no reciprocal: the quotient by a power of it fails either way. -/
theorem algebra_eq_ofTerms_zero :
    let left : Ratio Number := ⟨⟨⟨[.int (-1), 2, 3], []⟩, ⟨["x", "x"], ["z"]⟩⟩, "-6 x^2/z"⟩
    let zero : Ratio Number := ⟨⟨⟨[0, 0], []⟩, ⟨["z", "z"], []⟩⟩, "0 z^2"⟩
    left.IsReachable ∧ zero.IsReachable ∧ left.IsReduced ∧
      left.times zero =
        ofTerms (left.numerator ++ zero.numerator) (left.denominator ++ zero.denominator) ∧
      left.times zero = .ok
        ⟨⟨⟨[.int (-1), 2, 3, 0, 0], []⟩, ⟨["x", "x", "z"], []⟩⟩, "0 x^2*z"⟩ ∧
      left.divide zero =
        ofTerms (left.numerator ++ zero.denominator) (left.denominator ++ zero.numerator) ∧
      left.divide zero = .error .divisionByZero := by
  intro left zero
  have madeLeft : ofTerms
      [.literal (.int (-12)), .name "x", .name "y", .name "x"]
      [.literal 2, .name "y", .name "z", .name ""] = .ok left := by decide +kernel
  have reachableLeft : left.IsReachable :=
    .ofTerms (by simp [Term.IsInteger]) (by simp [Term.IsInteger]) madeLeft
  have reachableZero : zero.IsReachable := by
    let base : Ratio Number := ⟨⟨⟨[0], []⟩, ⟨["z"], []⟩⟩, "0 z"⟩
    have madeBase : ofTerms [.literal (.int 0), .name "z"] [] = .ok base := by decide +kernel
    have raised : base.power 2 = .ok zero := by decide +kernel
    exact .power (.ofTerms (by simp [Term.IsInteger]) (by simp) madeBase) raised
  have laws := algebra_eq_ofTerms left zero reachableLeft reachableZero
  exact ⟨reachableLeft, reachableZero, laws.1, laws.2.2.1, by decide +kernel, laws.2.2.2,
    by decide +kernel⟩

end Ratio
end Metrology
