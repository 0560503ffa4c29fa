import Mathlib
import Metrology.Proofs.Expression.ComposedText
import Metrology.Proofs.Expression.Evaluation
import Metrology.Proofs.Expression.Parsing
import Metrology.Proofs.Number.IntegerText
import Metrology.Proofs.Ratio.NameText

/-!
What the lexer makes, and the plans that are made of it. Whatever a text looks like, a name
that is read from it is the composition of a run of letters and marks. None of the operators
that symbols are made with stands in it, and none comes in when white space is taken off and
the name is composed for a lookup. A number that is read has no more digits than can be written.
-/

namespace Metrology

/-- Names that a lexer makes: compositions of letters and marks. -/
def IsLexed (name : String) : Prop :=
  ∃ span : List Char, (∀ character ∈ span, isNameContinuation character = true) ∧
    name.toList = composed span

theorem IsLexed.notMem {name : String} (lexed : IsLexed name) {sign : Char}
    (other : sign ∈ otherCharacters) : sign ∉ name.toList := by
  rcases lexed with ⟨span, continued, spelled⟩
  rw [spelled]
  exact fun member => notMem_otherCharacters_of_mem_composed continued member other

theorem IsLexed.isPlainName {name : String} (lexed : IsLexed name) (nonempty : name ≠ "") :
    IsPlainName name where
  nonempty := nonempty
  notOne := by
    rintro rfl
    exact lexed.notMem (show '1' ∈ otherCharacters by decide) (by decide)
  noTimes := lexed.notMem (by decide)
  noPer := lexed.notMem (by decide)
  noPower := lexed.notMem (by decide)

/-! ## Names that are looked up -/

theorem mem_of_mem_stripBlanks {sign : Char} {text : List Char} (member : sign ∈ stripBlanks text) :
    sign ∈ text := by
  have inFront := (List.dropWhile_sublist isBlank).subset (List.mem_reverse.mp member)
  exact (List.dropWhile_sublist isBlank).subset (List.mem_reverse.mp inFront)

/-- A name is not looked up under the symbol of a product, a quotient or a power. -/
theorem IsLexed.isComposed_normalizeSymbol {name : String} (lexed : IsLexed name) :
    Registry.isComposed (normalizeSymbol name) = false := by
  rw [Registry.isComposed, List.any_eq_false]
  intro sign member operator
  have listed : Registry.operators ⊆ otherCharacters := by decide
  have other := listed (List.contains_iff_mem.mp operator)
  rw [normalizeSymbol, String.toList_ofList] at member
  exact lexed.notMem other (mem_of_mem_stripBlanks (mem_of_other_mem_composed other member))

/-! ## Lexemes of a text -/

/-- What a lexer makes: lexed names, and numbers that are not too long to be read. -/
def Lexeme.IsScanned : Lexeme → Prop
  | .name value => IsLexed value
  | .number value => value < 10 ^ digitLimit
  | _ => True

namespace Lexer

theorem exists_of_scan_cons {lexeme : Lexeme} {position : ℕ} {others : Result (List Token)}
    {tokens : List Token}
    (scanned : (do return ⟨lexeme, position⟩ :: (← others) : Result (List Token)) = .ok tokens) :
    ∃ rest, others = .ok rest ∧ Parser.lexemes tokens = lexeme :: Parser.lexemes rest := by
  rcases Result.bind_eq_ok.mp scanned with ⟨rest, scannedRest, joined⟩
  cases joined
  exact ⟨rest, scannedRest, rfl⟩

theorem isScanned_of_operator? {character : Char} {operator : Lexeme}
    (found : Lexeme.operator? character = some operator) : operator.IsScanned := by
  unfold Lexeme.operator? at found
  split at found <;> cases found <;> trivial

theorem lt_of_readNumber {digits : List Char}
    (areDigits : ∀ digit ∈ digits, isAsciiDigit digit = true) {value : ℕ}
    (read : readNumber digits = .ok value) : value < 10 ^ digitLimit := by
  rw [readNumber] at read
  split at read
  · cases read
  · next short =>
      cases read
      exact (ofDecimalDigits_lt areDigits).trans_le
        (Nat.pow_le_pow_right (by decide) (not_lt.mp short))

theorem isScanned_of_scan {position : ℕ} {text : List Char} {tokens : List Token}
    (scanned : scan position text = .ok tokens) :
    ∀ lexeme ∈ Parser.lexemes tokens, lexeme.IsScanned := by
  fun_induction scan position text generalizing tokens with
  | case1 position =>
      cases scanned
      exact List.forall_mem_nil _
  | case2 position character rest separator induction => exact induction scanned
  | case3 position character rest notSeparator operator found induction =>
      rcases exists_of_scan_cons scanned with ⟨others, scannedRest, joined⟩
      rw [joined]
      exact List.forall_mem_cons.mpr ⟨isScanned_of_operator? found, induction scannedRest⟩
  | case4 position character rest notSeparator noOperator start span value =>
      rename_i induction
      rcases exists_of_scan_cons scanned with ⟨others, scannedRest, joined⟩
      rw [joined]
      refine List.forall_mem_cons.mpr ⟨⟨span, ?_, String.toList_ofList⟩, induction scannedRest⟩
      refine List.forall_mem_cons.mpr ⟨?_, fun other => List.mem_takeWhile_imp⟩
      simp [isNameContinuation, start]
  | case5 position character rest notSeparator noOperator noStart digit digits =>
      rename_i induction
      rcases Result.bind_eq_ok.mp scanned with ⟨value, read, scannedNumber⟩
      rcases exists_of_scan_cons scannedNumber with ⟨others, scannedRest, joined⟩
      rw [joined]
      have areDigits : ∀ other ∈ digits, isAsciiDigit other = true :=
        List.forall_mem_cons.mpr ⟨digit, fun other => List.mem_takeWhile_imp⟩
      exact List.forall_mem_cons.mpr ⟨lt_of_readNumber areDigits read, induction scannedRest⟩
  | case6 => cases scanned

end Lexer

/-! ## Plans of texts -/

/-- Names and exponents of a plan stand among lexemes, an exponent without its sign. -/
structure Plan.IsWrittenWith (lexemes : List Lexeme) (plan : Plan) : Prop where
  names : ∀ power ∈ plan.powers, Lexeme.name power.1 ∈ lexemes
  exponents : ∀ exponent ∈ plan.exponents, Lexeme.number exponent.natAbs ∈ lexemes

namespace Plan.IsWrittenWith

variable {lexemes others : List Lexeme} {first second : Plan}

theorem mono (written : first.IsWrittenWith lexemes) (subset : lexemes ⊆ others) :
    first.IsWrittenWith others where
  names power member := subset (written.names power member)
  exponents exponent member := subset (written.exponents exponent member)

theorem product (writtenFirst : first.IsWrittenWith lexemes)
    (writtenSecond : second.IsWrittenWith lexemes) :
    (Plan.product first second).IsWrittenWith lexemes where
  names := List.forall_mem_append.mpr ⟨writtenFirst.names, writtenSecond.names⟩
  exponents := List.forall_mem_append.mpr ⟨writtenFirst.exponents, writtenSecond.exponents⟩

theorem quotient (writtenFirst : first.IsWrittenWith lexemes)
    (writtenSecond : second.IsWrittenWith lexemes) :
    (Plan.quotient first second).IsWrittenWith lexemes where
  names := List.forall_mem_append.mpr
    ⟨writtenFirst.names, List.forall_mem_map.mpr writtenSecond.names⟩
  exponents := List.forall_mem_append.mpr ⟨writtenFirst.exponents, writtenSecond.exponents⟩

end Plan.IsWrittenWith

namespace Grammar.Tree

theorem number_mem (tree : Tree .exponent) :
    Lexeme.number (Int.natAbs tree.meaning) ∈ tree.lexemes := by
  cases tree with
  | positive value => simp [meaning, lexemes]
  | negative value => simp [meaning, lexemes]
  | unsigned value => simp [meaning, lexemes]

theorem isWrittenWith_of_term (tree : Tree .term) :
    Plan.IsWrittenWith tree.lexemes tree.meaning := by
  cases tree with
  | power base exponent =>
      have numbered := List.mem_cons_of_mem (.name base)
        (List.mem_cons_of_mem .power exponent.number_mem)
      exact ⟨by simp [meaning, Plan.powers, lexemes], List.forall_mem_singleton.mpr numbered⟩
  | name symbol => exact ⟨by simp [meaning, Plan.powers, lexemes], List.forall_mem_nil _⟩

theorem isWrittenWith_of_terms : (tree : Tree .terms) →
    Plan.IsWrittenWith tree.lexemes tree.meaning
  | .single factor => factor.isWrittenWith_of_term
  | .product first others =>
      (first.isWrittenWith_of_term.mono (List.subset_append_left ..)).product
        (others.isWrittenWith_of_terms.mono (List.subset_append_of_subset_right _
          (List.subset_cons_self ..)))

theorem isWrittenWith_of_expression (tree : Tree .expression) :
    Plan.IsWrittenWith tree.lexemes tree.meaning := by
  cases tree with
  | terms whole => exact whole.isWrittenWith_of_terms
  | quotient dividend divisor =>
      exact (dividend.isWrittenWith_of_terms.mono (List.subset_append_left ..)).quotient
        (divisor.isWrittenWith_of_terms.mono (List.subset_append_of_subset_right _
          (List.subset_cons_self ..)))

end Grammar.Tree

namespace Plan

variable {text : String} {plan : Plan}

theorem exists_isWrittenWith_of_ofText (parsed : ofText text = .ok plan) :
    ∃ lexemes, (∀ lexeme ∈ lexemes, lexeme.IsScanned) ∧ plan.IsWrittenWith lexemes := by
  rcases Result.bind_eq_ok.mp parsed with ⟨tokens, scanned, derived⟩
  rcases (Parser.parse_eq_ok_iff _ tokens plan).mp derived with ⟨tree, spelled, rfl⟩
  exact ⟨Parser.lexemes tokens, Lexer.isScanned_of_scan scanned,
    spelled ▸ tree.isWrittenWith_of_expression⟩

/-- All names of an expression are made by the lexer. -/
theorem isLexed_of_ofText (parsed : ofText text = .ok plan) :
    ∀ power ∈ plan.powers, IsLexed power.1 := by
  rcases exists_isWrittenWith_of_ofText parsed with ⟨lexemes, scanned, written⟩
  exact fun power member => scanned _ (written.names power member)

/-- An exponent that was read from a text can be written again. -/
theorem hasShortExponents_of_ofText (parsed : ofText text = .ok plan) :
    plan.HasShortExponents := by
  rcases exists_isWrittenWith_of_ofText parsed with ⟨lexemes, scanned, written⟩
  exact fun exponent member => scanned _ (written.exponents exponent member)

end Plan
end Metrology
