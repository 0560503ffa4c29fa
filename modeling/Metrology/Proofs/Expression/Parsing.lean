import Metrology.Expression.Parser
import Metrology.Proofs.Expression.Grammar

/-!
The parser accepts exactly what the grammar derives. A rule of the parser keeps the
first alternative that fits and never takes it back. That this cuts no derivation off
rests on what may follow each nonterminal.
-/

namespace Metrology

namespace Parser

open Grammar

def lexemes (tokens : List Token) : List Lexeme := tokens.map Token.lexeme

/-! ## Every derivation is found -/

section Completeness

variable {tokens : List Token}

theorem exponent?_of_tree (tree : Tree .exponent) (rest : List Token)
    (spelled : lexemes tokens = tree.lexemes) :
    exponent? (tokens ++ rest) = some (tree.meaning, rest) := by
  cases tree with
  | positive value =>
      rcases List.map_eq_cons_iff.mp spelled with ⟨⟨_, _⟩, _, rfl, rfl, spelledTail⟩
      rcases List.map_eq_singleton_iff.mp spelledTail with ⟨⟨_, _⟩, rfl, rfl⟩
      rfl
  | negative value =>
      rcases List.map_eq_cons_iff.mp spelled with ⟨⟨_, _⟩, _, rfl, rfl, spelledTail⟩
      rcases List.map_eq_singleton_iff.mp spelledTail with ⟨⟨_, _⟩, rfl, rfl⟩
      rfl
  | unsigned value =>
      rcases List.map_eq_singleton_iff.mp spelled with ⟨⟨_, _⟩, rfl, rfl⟩
      rfl

theorem term?_of_tree (tree : Tree .term) {rest : List Token}
    (spelled : lexemes tokens = tree.lexemes) (ends : Nonterminal.term.EndsBefore (lexemes rest)) :
    term? (tokens ++ rest) = some (tree.meaning, rest) := by
  cases tree with
  | power base exponent =>
      rcases List.map_eq_cons_iff.mp spelled with ⟨⟨_, _⟩, _, rfl, rfl, spelledTail⟩
      rcases List.map_eq_cons_iff.mp spelledTail with ⟨⟨_, _⟩, _, rfl, rfl, spelledExponent⟩
      simp only [List.cons_append, term?]
      rw [exponent?_of_tree exponent rest spelledExponent]
      rfl
  | name symbol =>
      rcases List.map_eq_singleton_iff.mp spelled with ⟨⟨_, _⟩, rfl, rfl⟩
      rcases rest with _ | ⟨⟨lexeme, position⟩, rest⟩
      · rfl
      · have notPower : lexeme.kind ∉ [Kind.power] := Nonterminal.endsBefore_cons.mp ends
        cases lexeme with
        | power => exact absurd (by decide) notPower
        | _ => rfl

theorem terms?_of_factors {first : Plan} {rest : List Token}
    (taken : term? tokens = some (first, rest)) (alone : factors rest = ([], rest)) :
    terms? tokens = some (first, rest) := by
  rw [terms?, taken]
  simp only [Option.bind_eq_bind, Option.bind_some, alone]
  rfl

/-- A term is alone where no operator follows it. -/
theorem factors_of_other (noTimes : ∀ position rest, tokens ≠ ⟨.times, position⟩ :: rest) :
    factors tokens = ([], tokens) := by
  unfold factors
  split
  · next position rest => exact absurd rfl (noTimes position rest)
  · rfl

theorem terms?_of_term {first : Plan} {rest : List Token}
    (taken : term? tokens = some (first, rest))
    (ends : Nonterminal.terms.EndsBefore (lexemes rest)) : terms? tokens = some (first, rest) := by
  refine terms?_of_factors taken (factors_of_other ?_)
  rintro position others rfl
  have continues : Kind.times ∈ Nonterminal.terms.continuedBy := by decide
  exact Nonterminal.endsBefore_cons.mp ends continues

/-- The loop over factors nests them as the rule for products does. -/
theorem terms?_of_times {first others : Plan} {position : ℕ} {rest final : List Token}
    (taken : term? tokens = some (first, ⟨.times, position⟩ :: rest))
    (takenOthers : terms? rest = some (others, final)) :
    terms? tokens = some (.product first others, final) := by
  rw [terms?] at takenOthers
  rcases Option.bind_eq_some_iff.mp takenOthers with ⟨⟨second, remaining⟩, takenSecond, chained⟩
  cases Option.some.inj chained
  have furtherFactors : factors (⟨.times, position⟩ :: rest) =
      (second :: (factors remaining).1, (factors remaining).2) := by
    rw [factors]
    split
    · next factor others found =>
        cases takenSecond.symm.trans found
        rfl
    · next found => cases takenSecond.symm.trans found
  rw [terms?, taken]
  simp only [Option.bind_eq_bind, Option.bind_some, furtherFactors]
  rfl

theorem terms?_of_tree : ∀ (tree : Tree .terms) {tokens rest : List Token},
    lexemes tokens = tree.lexemes → Nonterminal.terms.EndsBefore (lexemes rest) →
      terms? (tokens ++ rest) = some (tree.meaning, rest)
  | .single factor, _, _, spelled, ends =>
      terms?_of_term (term?_of_tree factor spelled (ends.mono (by decide))) ends
  | .product first others, _, _, spelled, ends => by
      rcases List.map_eq_append_iff.mp spelled with ⟨front, _, rfl, spelledFirst, spelledTail⟩
      rcases List.map_eq_cons_iff.mp spelledTail with ⟨⟨_, position⟩, back, rfl, rfl, spelledOthers⟩
      rw [List.append_assoc]
      exact terms?_of_times
        (term?_of_tree first spelledFirst (Nonterminal.term_endsBefore_times _))
        (terms?_of_tree others spelledOthers ends)

theorem terms?_of_whole_tree (tree : Tree .terms) (spelled : lexemes tokens = tree.lexemes) :
    terms? tokens = some (tree.meaning, []) := by
  have ends : Nonterminal.terms.EndsBefore (lexemes []) := Nonterminal.terms.endsBefore_nil
  simpa using terms?_of_tree tree spelled ends

theorem expression?_of_tree (tree : Tree .expression) (spelled : lexemes tokens = tree.lexemes) :
    expression? tokens = some (tree.meaning, []) := by
  cases tree with
  | quotient dividend divisor =>
      rcases List.map_eq_append_iff.mp spelled with ⟨front, _, rfl, spelledDividend, spelledTail⟩
      rcases List.map_eq_cons_iff.mp spelledTail with
        ⟨⟨_, position⟩, back, rfl, rfl, spelledDivisor⟩
      have takenDividend : terms? (front ++ ⟨.per, position⟩ :: back) =
          some (dividend.meaning, ⟨.per, position⟩ :: back) :=
        terms?_of_tree dividend spelledDividend (Nonterminal.terms_endsBefore_per _)
      have takenDivisor := terms?_of_whole_tree divisor spelledDivisor
      rw [expression?, quotient?, takenDividend]
      simp only [Option.bind_eq_bind, Option.bind_some, takenDivisor]
      rfl
  | terms whole =>
      rw [expression?, quotient?, terms?_of_whole_tree whole spelled]
      rfl

end Completeness

/-! ## What is found is a derivation -/

section Soundness

/-- A rule took the leaves of a tree off the front of the tokens. -/
def Takes {nonterminal : Nonterminal} (tree : Tree nonterminal) (tokens rest : List Token) : Prop :=
  ∃ front, tokens = front ++ rest ∧ lexemes front = tree.lexemes

variable {tokens rest : List Token}

theorem exists_tree_of_exponent? {exponent : ℤ} (taken : exponent? tokens = some (exponent, rest)) :
    ∃ tree : Tree .exponent, Takes tree tokens rest ∧ tree.meaning = exponent := by
  unfold exponent? at taken
  split at taken
  · next value _ _ =>
      cases taken
      exact ⟨.negative value, ⟨[_, _], rfl, rfl⟩, rfl⟩
  · next value _ _ =>
      cases taken
      exact ⟨.positive value, ⟨[_, _], rfl, rfl⟩, rfl⟩
  · next value _ _ =>
      cases taken
      exact ⟨.unsigned value, ⟨[_], rfl, rfl⟩, rfl⟩
  · cases taken

theorem exists_tree_of_term? {plan : Plan} (taken : term? tokens = some (plan, rest)) :
    ∃ tree : Tree .term, Takes tree tokens rest ∧ tree.meaning = plan := by
  unfold term? at taken
  split at taken
  · next symbol _ _ _ =>
      split at taken
      · next takenExponent =>
          cases taken
          rcases exists_tree_of_exponent? takenExponent with ⟨exponent, ⟨front, rfl, spelled⟩, rfl⟩
          refine ⟨.power symbol exponent, ⟨_ :: _ :: front, rfl, ?_⟩, rfl⟩
          rw [Tree.lexemes, ← spelled]
          rfl
      · cases taken
        exact ⟨.name symbol, ⟨[_], rfl, rfl⟩, rfl⟩
  · next symbol _ _ _ =>
      cases taken
      exact ⟨.name symbol, ⟨[_], rfl, rfl⟩, rfl⟩
  · cases taken

theorem exists_tree_of_factors (first : Tree .term) :
    ∃ tree : Tree .terms, tree.meaning = Plan.chain first.meaning (factors tokens).1 ∧
      ∃ front, tokens = front ++ (factors tokens).2 ∧
        tree.lexemes = first.lexemes ++ lexemes front := by
  fun_induction factors tokens generalizing first with
  | case1 position rest factor remaining taken others final loop induction =>
      rcases exists_tree_of_term? taken with ⟨second, ⟨front, rfl, spelled⟩, rfl⟩
      rcases induction second with ⟨tail, meaning, back, divided, spelledTail⟩
      rw [loop] at meaning divided
      refine ⟨.product first tail, ?_, ⟨.times, position⟩ :: front ++ back, ?_, ?_⟩
      · rw [Tree.meaning, meaning]
        rfl
      · rw [divided]
        simp
      · rw [Tree.lexemes, spelledTail, ← spelled]
        simp [lexemes]
  | case2 position rest failed => exact ⟨.single first, rfl, [], rfl, (List.append_nil _).symm⟩
  | case3 tokens other => exact ⟨.single first, rfl, [], rfl, (List.append_nil _).symm⟩

theorem exists_tree_of_terms? {plan : Plan} (taken : terms? tokens = some (plan, rest)) :
    ∃ tree : Tree .terms, Takes tree tokens rest ∧ tree.meaning = plan := by
  rw [terms?] at taken
  rcases Option.bind_eq_some_iff.mp taken with ⟨⟨_, remaining⟩, takenFirst, chained⟩
  cases Option.some.inj chained
  rcases exists_tree_of_term? takenFirst with ⟨first, ⟨front, rfl, spelled⟩, rfl⟩
  rcases exists_tree_of_factors first with ⟨tree, meaning, back, divided, spelledTree⟩
  refine ⟨tree, ⟨front ++ back, ?_, ?_⟩, meaning⟩
  · rw [List.append_assoc, ← divided]
  · rw [spelledTree, ← spelled]
    exact List.map_append

theorem exists_tree_of_quotient? {plan : Plan} (taken : quotient? tokens = some (plan, rest)) :
    ∃ tree : Tree .expression, Takes tree tokens rest ∧ tree.meaning = plan := by
  rw [quotient?] at taken
  rcases Option.bind_eq_some_iff.mp taken with ⟨⟨_, remaining⟩, takenDividend, takenRest⟩
  rcases exists_tree_of_terms? takenDividend with ⟨dividend, ⟨front, rfl, spelled⟩, rfl⟩
  split at takenRest
  · next position _ divided =>
      cases divided
      rcases Option.bind_eq_some_iff.mp takenRest with ⟨⟨_, _⟩, takenDivisor, paired⟩
      cases Option.some.inj paired
      rcases exists_tree_of_terms? takenDivisor with ⟨divisor, ⟨back, rfl, spelledDivisor⟩, rfl⟩
      refine ⟨.quotient dividend divisor, ⟨front ++ ⟨.per, position⟩ :: back, ?_, ?_⟩, rfl⟩
      · rw [List.append_assoc]
        rfl
      · rw [Tree.lexemes, ← spelled, ← spelledDivisor]
        exact List.map_append
  · cases takenRest

theorem exists_tree_of_expression? {plan : Plan}
    (taken : expression? tokens = some (plan, rest)) :
    ∃ tree : Tree .expression, Takes tree tokens rest ∧ tree.meaning = plan := by
  unfold expression? at taken
  split at taken
  · next takenQuotient =>
      rw [taken] at takenQuotient
      exact exists_tree_of_quotient? takenQuotient
  · rcases exists_tree_of_terms? taken with ⟨tree, takes, meaning⟩
    exact ⟨.terms tree, takes, meaning⟩

end Soundness

/-! ## The whole token list -/

section Exactness

variable (textLength : ℕ) (tokens : List Token)

theorem parse_eq_ok_iff_expression? (plan : Plan) :
    parse textLength tokens = .ok plan ↔ expression? tokens = some (plan, []) := by
  rw [parse]
  rcases expression? tokens with _ | ⟨found, _ | ⟨token, rest⟩⟩ <;> simp

theorem parse_eq_ok_or_malformed :
    (∃ plan, parse textLength tokens = .ok plan) ∨
      ∃ position, parse textLength tokens = .error (.malformed position) := by
  rw [parse]
  split
  · exact .inl ⟨_, rfl⟩
  · exact .inr ⟨_, rfl⟩
  · exact .inr ⟨_, rfl⟩

theorem parse_eq_ok_iff (plan : Plan) :
    parse textLength tokens = .ok plan ↔
      ∃ tree : Tree .expression, tree.lexemes = lexemes tokens ∧ tree.meaning = plan := by
  rw [parse_eq_ok_iff_expression?]
  constructor
  · intro found
    rcases exists_tree_of_expression? found with ⟨tree, ⟨front, rfl, spelled⟩, meaning⟩
    exact ⟨tree, by rw [List.append_nil, spelled], meaning⟩
  · rintro ⟨tree, spelled, rfl⟩
    exact expression?_of_tree tree spelled.symm

/-- The parser accepts exactly its grammar: a plan comes of the tokens whose kinds the
grammar derives, it is read off their one derivation, and all other tokens are
malformed. -/
theorem parses_exactly_grammar :
    ((∃ plan, parse textLength tokens = .ok plan) ↔
        (lexemes tokens).map Lexeme.kind ∈ grammar.language) ∧
      (∀ plan, parse textLength tokens = .ok plan ↔
        ∃ tree : Tree .expression, tree.meaning = plan ∧
          ∀ other : Tree .expression, other.lexemes = lexemes tokens ↔ other = tree) ∧
      ((∃ position, parse textLength tokens = .error (.malformed position)) ↔
        (lexemes tokens).map Lexeme.kind ∉ grammar.language) := by
  have accepted : (∃ plan, parse textLength tokens = .ok plan) ↔
      (lexemes tokens).map Lexeme.kind ∈ grammar.language := by
    simp only [parse_eq_ok_iff, mem_language_iff_exists_tree]
    exact ⟨fun ⟨_, tree, spelled, _⟩ => ⟨tree, spelled⟩,
      fun ⟨tree, spelled⟩ => ⟨_, tree, spelled, rfl⟩⟩
  refine ⟨accepted, fun plan => ?_, ?_⟩
  · rw [parse_eq_ok_iff]
    constructor
    · rintro ⟨tree, spelled, meaning⟩
      refine ⟨tree, meaning, fun other => ⟨fun spelledOther => ?_, ?_⟩⟩
      · exact Tree.eq_of_lexemes_eq (spelledOther.trans spelled.symm)
      · rintro rfl
        exact spelled
    · rintro ⟨tree, meaning, only⟩
      exact ⟨tree, (only tree).mpr rfl, meaning⟩
  · rw [← accepted]
    constructor
    · rintro ⟨position, malformed⟩ ⟨plan, parsed⟩
      rw [parsed] at malformed
      cases malformed
    · intro refused
      exact (parse_eq_ok_or_malformed textLength tokens).resolve_left refused

end Exactness

end Parser
end Metrology
