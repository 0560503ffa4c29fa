import Mathlib
import Metrology.Proofs.Expression.Printing

/-!
Compiling undoes printing. A plan of the shape that the grammar gives is written in many ways:
an exponent that is not negative may have a sign, and there may be separators in any gap. All of
them compile to the plan, as long as its names are words; names that are spelled otherwise come
back in their composed spelling.
-/

namespace Metrology

open Grammar

namespace Plan

/-! ## Plans of the grammar -/

/-- A name, or a name with an exponent. -/
def IsFactor : Plan → Prop
  | name _ => True
  | power (name _) _ => True
  | _ => False

/-- A product of factors, nested to the right. -/
def IsChain : Plan → Prop
  | product first others => first.IsFactor ∧ others.IsChain
  | other => other.IsFactor

/-- A chain, or a quotient of two chains. -/
def HasGrammarShape : Plan → Prop
  | quotient dividend divisor => dividend.IsChain ∧ divisor.IsChain
  | other => other.IsChain

/-- The lexemes that a plan may be written with. -/
def IsWrittenAs (plan : Plan) (written : List Lexeme) : Prop :=
  ∃ tree : Tree .expression, tree.meaning = plan ∧ tree.lexemes = written

/-- The same plan with another spelling of its names. -/
def rename (convert : String → String) : Plan → Plan
  | name symbol => name (convert symbol)
  | power base exponent => power (base.rename convert) exponent
  | product left right => product (left.rename convert) (right.rename convert)
  | quotient dividend divisor => quotient (dividend.rename convert) (divisor.rename convert)

theorem exists_exponent (exponent : ℤ) : ∃ tree : Tree .exponent, tree.meaning = exponent := by
  cases exponent with
  | ofNat value => exact ⟨.unsigned value, rfl⟩
  | negSucc value => exact ⟨.negative (value + 1), rfl⟩

theorem IsFactor.exists_tree {plan : Plan} (factor : plan.IsFactor) :
    ∃ tree : Tree .term, tree.meaning = plan := by
  cases plan with
  | name symbol => exact ⟨.name symbol, rfl⟩
  | power base exponent =>
      cases base with
      | name symbol =>
          rcases exists_exponent exponent with ⟨tree, rfl⟩
          exact ⟨.power symbol tree, rfl⟩
      | _ => exact False.elim factor
  | _ => exact False.elim factor

theorem IsChain.exists_tree : ∀ {plan : Plan}, plan.IsChain →
    ∃ tree : Tree .terms, tree.meaning = plan
  | product first others, chain => by
      rcases IsFactor.exists_tree chain.1 with ⟨front, rfl⟩
      rcases IsChain.exists_tree chain.2 with ⟨back, rfl⟩
      exact ⟨.product front back, rfl⟩
  | name symbol, _ => ⟨.single (.name symbol), rfl⟩
  | power base exponent, chain => by
      rcases IsFactor.exists_tree chain with ⟨factor, same⟩
      exact ⟨.single factor, same⟩
  | quotient dividend divisor, chain => False.elim chain

/-- Every plan of the shape of the grammar can be written. -/
theorem HasGrammarShape.exists_isWrittenAs {plan : Plan} (shape : plan.HasGrammarShape) :
    ∃ written, plan.IsWrittenAs written := by
  cases plan with
  | quotient dividend divisor =>
      rcases shape.1.exists_tree with ⟨front, rfl⟩
      rcases shape.2.exists_tree with ⟨back, rfl⟩
      exact ⟨_, .quotient front back, rfl, rfl⟩
  | _ =>
      rcases IsChain.exists_tree shape with ⟨whole, same⟩
      exact ⟨_, .terms whole, same, rfl⟩

end Plan

/-! ## Other spellings of names -/

namespace Grammar.Tree

variable (convert : String → String)

theorem meaning_rename_term (tree : Tree .term) :
    (tree.rename convert).meaning = tree.meaning.rename convert := by
  cases tree with
  | power base exponent => rfl
  | name symbol => rfl

theorem meaning_rename_terms : ∀ tree : Tree .terms,
    (tree.rename convert).meaning = tree.meaning.rename convert
  | single factor => meaning_rename_term convert factor
  | product first others =>
      congrArg₂ Plan.product (meaning_rename_term convert first) (meaning_rename_terms others)

theorem meaning_rename (tree : Tree .expression) :
    (tree.rename convert).meaning = tree.meaning.rename convert := by
  cases tree with
  | quotient dividend divisor =>
      exact congrArg₂ Plan.quotient (meaning_rename_terms convert dividend)
        (meaning_rename_terms convert divisor)
  | terms whole => exact meaning_rename_terms convert whole

end Grammar.Tree

/-! ## Compiling -/

namespace Plan

/-- Compiling undoes printing. Every plan of the shape of the grammar can be written, in several
ways: with or without a plus sign before an exponent, and with any separators before, after and
between its lexemes. As long as its names are identifiers and its numbers are not too long to
be read, whatever is written for it compiles to the plan with its names composed, and to the
plan itself when these are words. -/
theorem ofText_of_isWrittenAs (plan : Plan) :
    (plan.HasGrammarShape → ∃ written, plan.IsWrittenAs written) ∧
      ∀ (written : List Lexeme) (text : String), plan.IsWrittenAs written →
        (∀ lexeme ∈ written, lexeme.IsReadable) → Lexer.Spaced written text.toList →
          ofText text = .ok (plan.rename composedName) ∧
            ((∀ lexeme ∈ written, lexeme.IsPrintable) → ofText text = .ok plan) := by
  refine ⟨HasGrammarShape.exists_isWrittenAs, ?_⟩
  rintro written text ⟨tree, rfl, rfl⟩ readable spaced
  have compiled := tree.ofText_of_spaced readable spaced
  constructor
  · rw [compiled, Tree.meaning_rename]
  · intro printable
    rw [compiled, Tree.rename_composedName printable]

/-- A quotient that is spread over two lines. -/
theorem ofText_of_isWrittenAs_acceleration :
    let plan := quotient (product (name "kg") (name "m")) (power (name "s") 2)
    let written := [Lexeme.name "kg", .times, .name "m", .per, .name "s", .power, .plus, .number 2]
    plan.HasGrammarShape ∧ plan.IsWrittenAs written ∧
      (∀ lexeme ∈ written, lexeme.IsPrintable) ∧
      Lexer.Spaced written "\tkg *m/s\r\n^ +2 ".toList ∧
      ofText "\tkg *m/s\r\n^ +2 " = .ok plan := by
  intro plan written
  have shape : plan.HasGrammarShape := ⟨⟨trivial, trivial⟩, trivial⟩
  have isWritten : plan.IsWrittenAs written :=
    ⟨.quotient (.product (.name "kg") (.single (.name "m"))) (.single (.power "s" (.positive 2))),
      rfl, rfl⟩
  have printable : ∀ lexeme ∈ written, lexeme.IsPrintable := by decide +kernel
  have nothing : ∀ character ∈ [], isSeparator character = true := by simp
  have blank : ∀ character ∈ [' '], isSeparator character = true := by simp [isSeparator]
  have tab : ∀ character ∈ ['\t'], isSeparator character = true := by simp [isSeparator]
  have newLine : ∀ character ∈ ['\r', '\n'], isSeparator character = true := by
    simp [isSeparator]
  have spaced : Lexer.Spaced written "\tkg *m/s\r\n^ +2 ".toList :=
    .cons tab _ <| .cons blank _ <| .cons nothing _ <| .cons nothing _ <| .cons nothing _ <|
      .cons newLine _ <| .cons blank _ <| .cons nothing _ <| .nil blank
  have compiled := (ofText_of_isWrittenAs plan).2 written _ isWritten
    (fun lexeme member => (printable lexeme member).isReadable) spaced
  exact ⟨shape, isWritten, printable, spaced, compiled.2 printable⟩

/-- The sign of the ohm may stand in a name, but comes back as the letter. -/
theorem ofText_ohm_sign :
    isNameStart '\u2126' = true ∧ (name "\u2126").IsWrittenAs [.name "\u2126"] ∧
      ofText "\u2126" = .ok (name "\u03a9") ∧ ofText "\u2126" ≠ .ok (name "\u2126") := by
  refine ⟨by decide +kernel, ⟨.terms (.single (.name "\u2126")), rfl, rfl⟩, ?_, ?_⟩
  · decide +kernel
  · decide +kernel

end Plan
end Metrology
