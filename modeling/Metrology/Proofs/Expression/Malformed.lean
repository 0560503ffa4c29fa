import Mathlib
import Metrology.Proofs.Expression.Parsing

/-!
Where tokens stop to be an expression. A rule of the parser never takes back what it took, but
it takes at least what any derivation takes that the tokens start with. What is left to it in
the end therefore begins behind the longest sentence that the tokens start with, and that is
where the fault is reported.
-/

namespace Metrology

namespace Parser

open Grammar

/-- Token lists that the grammar derives. -/
def IsSentence (tokens : List Token) : Prop :=
  (lexemes tokens).map Lexeme.kind ∈ grammar.language

/-! ## Rules take as much as they can -/

section Greed

variable {tokens rest final : List Token} {plan : Plan}

theorem isSuffix_of_term? (taken : term? tokens = some (plan, final)) : final <:+ tokens := by
  rcases exists_tree_of_term? taken with ⟨_, ⟨front, rfl, _⟩, _⟩
  exact List.suffix_append front final

theorem isSuffix_of_terms? (taken : terms? tokens = some (plan, final)) : final <:+ tokens := by
  rcases exists_tree_of_terms? taken with ⟨_, ⟨front, rfl, _⟩, _⟩
  exact List.suffix_append front final

theorem isSuffix_factors (tokens : List Token) : (factors tokens).2 <:+ tokens := by
  rcases exists_tree_of_factors (.name "") with ⟨_, _, front, divided, _⟩
  exact ⟨front, divided.symm⟩

/-- A name is a term, whether or not an exponent follows. -/
theorem exists_term?_of_name (symbol : String) (position : ℕ) (rest : List Token) :
    ∃ plan final, term? (⟨.name symbol, position⟩ :: rest) = some (plan, final) ∧
      final <:+ rest := by
  cases taken : term? (⟨.name symbol, position⟩ :: rest) with
  | none =>
      unfold term? at taken
      split at taken
      · split at taken <;> cases taken
      · cases taken
      · next noName => exact absurd rfl (noName symbol position rest)
  | some found =>
      rcases found with ⟨plan, final⟩
      have shorter := length_of_term? taken
      rcases List.suffix_cons_iff.mp (isSuffix_of_term? taken) with rfl | suffix
      · exact absurd shorter (lt_irrefl _)
      · exact ⟨plan, final, rfl, suffix⟩

theorem exists_term?_of_tree (tree : Tree .term) (rest : List Token)
    (spelled : lexemes tokens = tree.lexemes) :
    ∃ plan final, term? (tokens ++ rest) = some (plan, final) ∧ final <:+ rest := by
  cases tree with
  | power base exponent =>
      rcases List.map_eq_cons_iff.mp spelled with ⟨⟨_, _⟩, _, rfl, rfl, spelledTail⟩
      rcases List.map_eq_cons_iff.mp spelledTail with ⟨⟨_, _⟩, _, rfl, rfl, spelledExponent⟩
      refine ⟨.power (.name base) exponent.meaning, rest, ?_, List.suffix_refl rest⟩
      simp only [List.cons_append, term?]
      rw [exponent?_of_tree exponent rest spelledExponent]
  | name symbol =>
      rcases List.map_eq_singleton_iff.mp spelled with ⟨⟨_, position⟩, rfl, rfl⟩
      exact exists_term?_of_name symbol position rest

theorem exists_terms?_of_tree : ∀ (tree : Tree .terms) {tokens : List Token} (rest : List Token),
    lexemes tokens = tree.lexemes →
      ∃ plan final, terms? (tokens ++ rest) = some (plan, final) ∧ final <:+ rest
  | .single factor, _, rest, spelled => by
      rcases exists_term?_of_tree factor rest spelled with ⟨first, remaining, taken, suffix⟩
      refine ⟨first.chain (factors remaining).1, (factors remaining).2, ?_,
        (isSuffix_factors remaining).trans suffix⟩
      rw [terms?, taken]
      rfl
  | .product first others, _, rest, spelled => by
      rcases List.map_eq_append_iff.mp spelled with ⟨front, _, rfl, spelledFirst, spelledTail⟩
      rcases List.map_eq_cons_iff.mp spelledTail with ⟨⟨_, position⟩, back, rfl, rfl, spelledOthers⟩
      rcases exists_terms?_of_tree others rest spelledOthers with ⟨plan, final, taken, suffix⟩
      refine ⟨.product first.meaning plan, final, ?_, suffix⟩
      rw [List.append_assoc]
      exact terms?_of_times
        (term?_of_tree first spelledFirst (Nonterminal.term_endsBefore_times _)) taken

/-- A quotient goes on where its dividend ends. -/
theorem isSuffix_of_quotient? {dividend quotient : Plan} {remaining : List Token}
    (takenDividend : terms? tokens = some (dividend, remaining))
    (taken : quotient? tokens = some (quotient, final)) : final <:+ remaining := by
  rw [quotient?, takenDividend] at taken
  simp only [Option.bind_eq_bind, Option.bind_some] at taken
  split at taken
  · next position rest divided =>
      cases divided
      rcases Option.bind_eq_some_iff.mp taken with ⟨⟨_, _⟩, takenDivisor, paired⟩
      cases Option.some.inj paired
      exact (isSuffix_of_terms? takenDivisor).trans (List.suffix_cons _ _)
  · cases taken

/-- Whatever sentence the tokens start with, the parser takes at least that. -/
theorem exists_expression?_of_tree (tree : Tree .expression) (rest : List Token)
    (spelled : lexemes tokens = tree.lexemes) :
    ∃ plan final, expression? (tokens ++ rest) = some (plan, final) ∧ final <:+ rest := by
  cases tree with
  | quotient dividend divisor =>
      rcases List.map_eq_append_iff.mp spelled with ⟨front, _, rfl, spelledDividend, spelledTail⟩
      rcases List.map_eq_cons_iff.mp spelledTail with
        ⟨⟨_, position⟩, back, rfl, rfl, spelledDivisor⟩
      have takenDividend : terms? (front ++ ⟨.per, position⟩ :: (back ++ rest)) =
          some (dividend.meaning, ⟨.per, position⟩ :: (back ++ rest)) :=
        terms?_of_tree dividend spelledDividend (Nonterminal.terms_endsBefore_per _)
      rcases exists_terms?_of_tree divisor rest spelledDivisor with
        ⟨plan, final, takenDivisor, suffix⟩
      refine ⟨.quotient dividend.meaning plan, final, ?_, suffix⟩
      rw [List.append_assoc, List.cons_append, expression?, quotient?, takenDividend]
      simp only [Option.bind_eq_bind, Option.bind_some, takenDivisor]
      rfl
  | terms whole =>
      rcases exists_terms?_of_tree whole rest spelled with ⟨plan, remaining, taken, suffix⟩
      rw [expression?]
      cases takenQuotient : quotient? (tokens ++ rest) with
      | none => exact ⟨plan, remaining, taken, suffix⟩
      | some found =>
          rcases found with ⟨quotient, final⟩
          exact ⟨quotient, final, rfl, (isSuffix_of_quotient? taken takenQuotient).trans suffix⟩

end Greed

/-! ## Sentences and their prefixes -/

section Sentences

variable {tokens front rest : List Token} {plan : Plan}

theorem isSentence_iff :
    IsSentence tokens ↔ ∃ tree : Tree .expression, tree.lexemes = lexemes tokens :=
  mem_language_iff_exists_tree (lexemes tokens)

theorem isSentence_iff_parse (textLength : ℕ) :
    IsSentence tokens ↔ ∃ plan, parse textLength tokens = .ok plan := by
  simp only [isSentence_iff, parse_eq_ok_iff]
  exact ⟨fun ⟨tree, spelled⟩ => ⟨_, tree, spelled, rfl⟩,
    fun ⟨_, tree, spelled, _⟩ => ⟨tree, spelled⟩⟩

/-- What the parser takes is a sentence, and it begins with all others that the tokens start
with. -/
theorem exists_longest_of_expression? (taken : expression? tokens = some (plan, rest)) :
    ∃ front, tokens = front ++ rest ∧ IsSentence front ∧
      ∀ other, other <+: tokens → IsSentence other → other <+: front := by
  rcases exists_tree_of_expression? taken with ⟨tree, ⟨front, rfl, spelled⟩, _⟩
  refine ⟨front, rfl, isSentence_iff.mpr ⟨tree, spelled.symm⟩, ?_⟩
  rintro other ⟨remaining, divided⟩ sentence
  rcases isSentence_iff.mp sentence with ⟨otherTree, spelledOther⟩
  rcases exists_expression?_of_tree otherTree remaining spelledOther.symm with
    ⟨_, final, takenOther, suffix⟩
  rw [divided] at takenOther
  cases taken.symm.trans takenOther
  -- What is left to the parser is no more than what the other sentence leaves.
  have shorter : other.length ≤ front.length := by
    have lengths := congrArg List.length divided
    have left := suffix.length_le
    simp only [List.length_append] at lengths
    omega
  exact List.prefix_of_prefix_length_le ⟨remaining, divided⟩ (List.prefix_append front rest) shorter

theorem not_isSentence_of_expression?_eq_none (refused : expression? tokens = none)
    {other : List Token} (starts : other <+: tokens) : ¬IsSentence other := by
  rcases starts with ⟨remaining, rfl⟩
  intro sentence
  rcases isSentence_iff.mp sentence with ⟨tree, spelled⟩
  rcases exists_expression?_of_tree tree remaining spelled.symm with ⟨_, _, taken, _⟩
  cases refused.symm.trans taken

end Sentences

/-! ## Where the fault is -/

/-- Tokens that are no sentence are malformed from the token on that follows the longest
sentence they start with, or from the first token if they start with none. The fault lies at the
end of the text when there is no token at all, and only then as long as all tokens are within
the text. -/
theorem malformed_behind_longest_sentence (textLength : ℕ) (tokens : List Token)
    (noSentence : ¬IsSentence tokens) :
    (tokens = [] → parse textLength tokens = .error (.malformed textLength)) ∧
      (tokens ≠ [] → ∃ front token rest, tokens = front ++ token :: rest ∧
        (IsSentence front ∨ front = []) ∧
        (∀ other, other <+: tokens → IsSentence other → other <+: front) ∧
        parse textLength tokens = .error (.malformed token.position)) ∧
      ((∀ token ∈ tokens, token.position < textLength) →
        (parse textLength tokens = .error (.malformed textLength) ↔ tokens = [])) := by
  have empty : parse textLength [] = .error (.malformed textLength) := by
    have nothing : expression? [] = none := by decide +kernel
    rw [parse, nothing]
    rfl
  have behind (nonempty : tokens ≠ []) : ∃ front token rest, tokens = front ++ token :: rest ∧
      (IsSentence front ∨ front = []) ∧
      (∀ other, other <+: tokens → IsSentence other → other <+: front) ∧
      parse textLength tokens = .error (.malformed token.position) := by
    cases taken : expression? tokens with
    | none =>
        rcases List.exists_cons_of_ne_nil nonempty with ⟨token, rest, rfl⟩
        refine ⟨[], token, rest, rfl, .inr rfl, ?_, ?_⟩
        · exact fun other starts sentence =>
            absurd sentence (not_isSentence_of_expression?_eq_none taken starts)
        · rw [parse, taken]
          rfl
    | some found =>
        rcases found with ⟨plan, left⟩
        rcases exists_longest_of_expression? taken with ⟨front, divided, sentence, longest⟩
        cases left with
        | nil => exact absurd (by rwa [divided, List.append_nil]) noSentence
        | cons token rest =>
            refine ⟨front, token, rest, divided, .inl sentence, longest, ?_⟩
            rw [parse, taken]
            rfl
  refine ⟨?_, behind, fun within => ⟨fun atEnd => ?_, ?_⟩⟩
  · rintro rfl
    exact empty
  · by_contra nonempty
    rcases behind nonempty with ⟨front, token, rest, divided, _, _, reported⟩
    have inside := within token (by simp [divided])
    rw [reported, Except.error.injEq, Fault.malformed.injEq] at atEnd
    omega
  · rintro rfl
    exact empty

/-- A dangling operator is where the expression ends. -/
theorem malformed_behind_longest_sentence_dangling :
    let tokens : List Token := [⟨.name "m", 0⟩, ⟨.times, 1⟩, ⟨.name "s", 2⟩, ⟨.times, 3⟩]
    ¬IsSentence tokens ∧ parse 4 tokens = .error (.malformed 3) ∧
      ∃ front token rest, tokens = front ++ token :: rest ∧
        (IsSentence front ∨ front = []) ∧
        (∀ other, other <+: tokens → IsSentence other → other <+: front) ∧
        parse 4 tokens = .error (.malformed token.position) := by
  intro tokens
  have reported : parse 4 tokens = .error (.malformed 3) := by decide +kernel
  have noSentence : ¬IsSentence tokens := by
    rw [isSentence_iff_parse 4]
    rintro ⟨plan, parsed⟩
    cases reported.symm.trans parsed
  exact ⟨noSentence, reported,
    (malformed_behind_longest_sentence 4 tokens noSentence).2.1 (List.cons_ne_nil _ _)⟩

end Parser
end Metrology
