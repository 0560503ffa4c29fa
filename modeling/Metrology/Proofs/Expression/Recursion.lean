import Mathlib
import Metrology.Proofs.Expression.Lexemes
import Metrology.Proofs.Expression.Malformed

/-!
Products of any length. A loop collects their factors, be it from tokens or along the right
spine of a plan, and folds them from the right. It comes to the same as the recursion that it
stands for: the rule of the grammar, whose alternatives are tried one after the other from the same
place, and the evaluation of a plan node by node.
-/

namespace Metrology

namespace Parser

/-! ## The rule for products -/

/-- A term, an operator and further terms; or else, from the same place, a term alone. -/
def termsByRule? (tokens : List Token) : Option (Plan × List Token) :=
  (match _taken : term? tokens with
    | some (first, ⟨.times, _⟩ :: rest) =>
        (termsByRule? rest).map fun (others, final) => (.product first others, final)
    | _ => none) <|> term? tokens
termination_by tokens.length
decreasing_by
  have shorter := length_of_term? _taken
  simp only [List.length_cons] at shorter
  omega

/-- An operator that no term follows is left where it is. -/
example : termsByRule? [⟨.name "m", 0⟩, ⟨.times, 1⟩, ⟨.name "s", 2⟩, ⟨.times, 3⟩] =
    some (.product (.name "m") (.name "s"), [⟨.times, 3⟩]) := by
  decide +kernel

section Loop

variable {tokens rest : List Token} {plan : Plan}

theorem terms?_eq_none_iff : terms? tokens = none ↔ term? tokens = none := by
  rw [terms?]
  cases term? tokens with
  | none => simp
  | some found => simp

/-- An operator that no term follows is no reason to go on. -/
theorem factors_of_dangling (refused : term? rest = none) (position : ℕ) :
    factors (⟨.times, position⟩ :: rest) = ([], ⟨.times, position⟩ :: rest) := by
  rw [factors]
  split
  · next found => cases refused.symm.trans found
  · rfl

/-- The loop over factors takes what the rule takes, and leaves the same tokens. -/
theorem terms?_eq_termsByRule? (tokens : List Token) : terms? tokens = termsByRule? tokens := by
  fun_induction termsByRule? tokens with
  | case1 tokens induction =>
      split
      · next first position rest taken =>
          rw [← induction first position rest taken]
          cases takenOthers : terms? rest with
          | some found =>
              rw [terms?_of_times taken takenOthers]
              rfl
          | none =>
              have refused := terms?_eq_none_iff.mp takenOthers
              rw [terms?_of_factors taken (factors_of_dangling refused position), taken]
              rfl
      · next noProduct =>
          cases taken : term? tokens with
          | none => exact terms?_eq_none_iff.mpr taken
          | some found =>
              rcases found with ⟨first, rest⟩
              refine terms?_of_factors taken (factors_of_other ?_)
              rintro position others rfl
              exact noProduct first position others taken

theorem length_of_terms? (taken : terms? tokens = some (plan, rest)) :
    rest.length < tokens.length := by
  rw [terms?] at taken
  rcases Option.bind_eq_some_iff.mp taken with ⟨⟨first, remaining⟩, takenFirst, chained⟩
  cases Option.some.inj chained
  exact (isSuffix_factors remaining).length_le.trans_lt (length_of_term? takenFirst)

/-- What a product leaves begins further on in the same tokens. -/
theorem exists_cursor_of_terms? {cursor : ℕ}
    (taken : terms? (tokens.drop cursor) = some (plan, rest)) :
    ∃ next, cursor < next ∧ next ≤ tokens.length ∧ rest = tokens.drop next := by
  have suffix := (isSuffix_of_terms? taken).trans (List.drop_suffix cursor tokens)
  have shorter := length_of_terms? taken
  rw [List.length_drop] at shorter
  exact ⟨tokens.length - rest.length, by omega, Nat.sub_le _ _, List.suffix_iff_eq_drop.mp suffix⟩

end Loop

end Parser

namespace Plan

/-! ## Evaluation node by node -/

section Nodes

variable {υ : Type} [Composable υ] (lookup : Lookup υ)

/-- Every node evaluates its parts from left to right and composes what they give; `refuse`
says what comes of an exponent below one. -/
def evaluateNodes (refuse : ℤ → Fault) : Plan → Result υ
  | name symbol => .ok (resolve lookup symbol)
  | power base exponent => do
      let unit ← evaluateNodes refuse base
      if 1 ≤ exponent then Composable.power unit exponent else .error (refuse exponent)
  | product left right => do
      let first ← evaluateNodes refuse left
      let second ← evaluateNodes refuse right
      Composable.times first second
  | quotient dividend divisor => do
      let first ← evaluateNodes refuse dividend
      let second ← evaluateNodes refuse divisor
      Composable.divide first second

/-- The refusal of an exponent below one, by its text. -/
def reported (exponent : ℤ) : Fault := .expressionPower (toString exponent)

/-- Only what comes of the exponents in the plan matters. -/
theorem evaluate_eq_evaluateNodes {refuse : ℤ → Fault} (plan : Plan)
    (agrees : ∀ exponent ∈ plan.exponents, refusal exponent = refuse exponent) :
    plan.evaluate lookup = plan.evaluateNodes lookup refuse := by
  induction plan with
  | name symbol => exact evaluate_name lookup symbol
  | power base exponent induction =>
      rcases List.forall_mem_append.mp agrees with ⟨agreesBase, agreesLast⟩
      rw [evaluate_power, evaluateNodes, induction agreesBase]
      refine bind_congr fun unit => ?_
      by_cases low : exponent < 1
      · rw [if_pos low, if_neg (by omega), List.forall_mem_singleton.mp agreesLast]
      · rw [if_neg low, if_pos (by omega)]
  | product left right inductionLeft inductionRight =>
      rcases List.forall_mem_append.mp agrees with ⟨agreesLeft, agreesRight⟩
      rw [evaluate_product, evaluateNodes, inductionLeft agreesLeft, inductionRight agreesRight]
  | quotient dividend divisor inductionDividend inductionDivisor =>
      rcases List.forall_mem_append.mp agrees with ⟨agreesDividend, agreesDivisor⟩
      rw [evaluate_quotient, evaluateNodes, inductionDividend agreesDividend,
        inductionDivisor agreesDivisor]

theorem evaluate_eq_evaluateNodes_reported {plan : Plan} (short : plan.HasShortExponents) :
    plan.evaluate lookup = plan.evaluateNodes lookup reported :=
  evaluate_eq_evaluateNodes lookup plan fun exponent member => by
    rw [refusal_eq, if_pos (short exponent member), reported]

end Nodes

end Plan

/-! ## Loops and recursion -/

/-- The loops do what the rules say. From any place in any tokens the loop over factors finds the
plan that the rule for products finds, and leaves off at the same place further on. In any
registry the loop along the right spine of a plan gives the unit, or the fault, that evaluation
node by node gives. An exponent below one is reported by its text, except one that has too many
digits to be written; none has that is read from a text. -/
theorem loops_follow_rules {κ υ : Type} [BEq κ] [Symbol κ] [Bindable υ] [Composable υ]
    (registry : Registry κ υ) :
    (∀ (tokens : List Token) (cursor : ℕ),
      Parser.terms? (tokens.drop cursor) = Parser.termsByRule? (tokens.drop cursor) ∧
        ∀ plan rest, Parser.terms? (tokens.drop cursor) = some (plan, rest) →
          ∃ next, cursor < next ∧ next ≤ tokens.length ∧ rest = tokens.drop next) ∧
      (∀ plan : Plan, plan.evaluate registry.find? =
        plan.evaluateNodes registry.find? fun exponent =>
          if exponent.natAbs < 10 ^ digitLimit then .expressionPower (toString exponent)
          else .tooManyDigits) ∧
      (∀ plan : Plan, plan.HasShortExponents →
        plan.evaluate registry.find? = plan.evaluateNodes registry.find? Plan.reported) ∧
      ∀ text plan, Plan.ofText text = .ok plan → plan.HasShortExponents :=
  ⟨fun _ _ => ⟨Parser.terms?_eq_termsByRule? _, fun _ _ => Parser.exists_cursor_of_terms?⟩,
    fun plan => plan.evaluate_eq_evaluateNodes registry.find? fun exponent _ =>
      Plan.refusal_eq exponent,
    fun _ => Plan.evaluate_eq_evaluateNodes_reported registry.find?,
    fun _ _ => Plan.hasShortExponents_of_ofText⟩

/-- The exponent of a divisor is reported in both ways. -/
theorem loops_follow_rules_speed :
    let registry : UnitRegistry := Registry.populated
    let plan : Plan := .quotient (.name "m") (.power (.name "s") (-2))
    Plan.ofText "m/s^-2" = .ok plan ∧ plan.HasShortExponents ∧
      plan.evaluate registry.find? = plan.evaluateNodes registry.find? Plan.reported ∧
      plan.evaluateNodes registry.find? Plan.reported = .error (.expressionPower "-2") := by
  intro registry plan
  rcases loops_follow_rules registry with ⟨_, _, follows, short⟩
  have parsed : Plan.ofText "m/s^-2" = .ok plan := by decide +kernel
  exact ⟨parsed, short _ plan parsed, follows plan (short _ plan parsed), rfl⟩

/-- An exponent below one with one digit too many is refused for its digits, where the rules
would have it reported. -/
theorem loops_depart_on_long_exponent :
    let registry : UnitRegistry := Registry.populated
    let plan : Plan := .power (.name "m") (-10 ^ digitLimit)
    plan.evaluate registry.find? = .error .tooManyDigits ∧
      plan.evaluateNodes registry.find? Plan.reported =
        .error (.expressionPower (toString (-(10 : ℤ) ^ digitLimit))) := by
  intro registry plan
  constructor
  · rw [Plan.evaluate_power, Plan.evaluate_name, Result.ok_bind, if_pos neg_ten_pow_lt_one,
      Plan.refusal_eq, natAbs_neg_ten_pow, if_neg (lt_irrefl _)]
  · rw [Plan.evaluateNodes, Plan.evaluateNodes, Result.ok_bind,
      if_neg (not_le.mpr neg_ten_pow_lt_one), Plan.reported]

end Metrology
