import Mathlib
import Metrology.Expression.Parser

/-!
The grammar of unit expressions, with its derivations as trees. Each derivable token
list has one tree, from which its plan is read off.
-/

namespace Metrology

/-! ## The grammar -/

namespace Grammar

inductive Kind where
  | name
  | number
  | times
  | per
  | plus
  | minus
  | power
  deriving DecidableEq, Repr

inductive Nonterminal where
  | expression
  | terms
  | term
  | exponent
  deriving DecidableEq, Repr

def productions : List (ContextFreeRule Kind Nonterminal) :=
  [⟨.expression, [.nonterminal .terms, .terminal .per, .nonterminal .terms]⟩,
    ⟨.expression, [.nonterminal .terms]⟩,
    ⟨.terms, [.nonterminal .term, .terminal .times, .nonterminal .terms]⟩,
    ⟨.terms, [.nonterminal .term]⟩,
    ⟨.term, [.terminal .name, .terminal .power, .nonterminal .exponent]⟩,
    ⟨.term, [.terminal .name]⟩,
    ⟨.exponent, [.terminal .plus, .terminal .number]⟩,
    ⟨.exponent, [.terminal .minus, .terminal .number]⟩,
    ⟨.exponent, [.terminal .number]⟩]

end Grammar

/-- The kinds of tokens that make up a unit expression. -/
def grammar : ContextFreeGrammar Grammar.Kind where
  NT := Grammar.Nonterminal
  initial := .expression
  rules := Grammar.productions.toFinset

/-- What the grammar sees of a lexeme. -/
def Lexeme.kind : Lexeme → Grammar.Kind
  | .name _ => .name
  | .number _ => .number
  | .times => .times
  | .per => .per
  | .plus => .plus
  | .minus => .minus
  | .power => .power

namespace Grammar

/-! ## Derivations

A tree has a constructor for each production, and carries the values of the names and
numbers at its leaves. -/

inductive Tree : Nonterminal → Type where
  | quotient (dividend divisor : Tree .terms) : Tree .expression
  | terms (whole : Tree .terms) : Tree .expression
  | product (first : Tree .term) (others : Tree .terms) : Tree .terms
  | single (factor : Tree .term) : Tree .terms
  | power (base : String) (exponent : Tree .exponent) : Tree .term
  | name (symbol : String) : Tree .term
  | positive (value : ℕ) : Tree .exponent
  | negative (value : ℕ) : Tree .exponent
  | unsigned (value : ℕ) : Tree .exponent

abbrev Nonterminal.Meaning : Nonterminal → Type
  | .exponent => ℤ
  | .expression | .terms | .term => Plan

namespace Tree

/-- The leaves from left to right. -/
def lexemes {nonterminal : Nonterminal} : Tree nonterminal → List Lexeme
  | quotient dividend divisor => dividend.lexemes ++ .per :: divisor.lexemes
  | terms whole => whole.lexemes
  | product first others => first.lexemes ++ .times :: others.lexemes
  | single factor => factor.lexemes
  | power base exponent => .name base :: .power :: exponent.lexemes
  | name symbol => [.name symbol]
  | positive value => [.plus, .number value]
  | negative value => [.minus, .number value]
  | unsigned value => [.number value]

/-- The plan that is read off a derivation, or the number off that of an exponent. -/
def meaning {nonterminal : Nonterminal} : Tree nonterminal → nonterminal.Meaning
  | quotient dividend divisor => Plan.quotient dividend.meaning divisor.meaning
  | terms whole => whole.meaning
  | product first others => Plan.product first.meaning others.meaning
  | single factor => factor.meaning
  | power base exponent => Plan.power (.name base) exponent.meaning
  | name symbol => Plan.name symbol
  | positive value => (value : ℤ)
  | negative value => -(value : ℤ)
  | unsigned value => (value : ℤ)

def kinds {nonterminal : Nonterminal} (tree : Tree nonterminal) : List Kind :=
  tree.lexemes.map Lexeme.kind

end Tree

example : (Tree.quotient (.single (.name "m")) (.single (.power "s" (.negative 2)))).lexemes =
    [.name "m", .per, .name "s", .power, .minus, .number 2] := by decide

/-! ## Trees are derivations -/

section Derivations

variable {nonterminal : Nonterminal}

theorem mem_rules (rule : ContextFreeRule Kind Nonterminal) :
    rule ∈ grammar.rules ↔ rule ∈ productions := List.mem_toFinset

theorem derives_of_production {output word : List (Symbol Kind Nonterminal)}
    (production : ⟨nonterminal, output⟩ ∈ productions) (derived : grammar.Derives output word) :
    grammar.Derives [.nonterminal nonterminal] word := by
  have rewritten : grammar.Produces [.nonterminal nonterminal] output :=
    ⟨⟨nonterminal, output⟩, (mem_rules _).mpr production, ContextFreeRule.Rewrites.input_output⟩
  exact rewritten.trans_derives derived

theorem derives_separated {first second front back : List (Symbol Kind Nonterminal)}
    (separator : Kind) (derivedFirst : grammar.Derives first front)
    (derivedSecond : grammar.Derives second back) :
    grammar.Derives (first ++ .terminal separator :: second)
      (front ++ .terminal separator :: back) :=
  (derivedFirst.append_right _).trans
    ((derivedSecond.append_left [.terminal separator]).append_left _)

/-- A tree derives the kinds of its leaves. -/
theorem Tree.derives (tree : Tree nonterminal) :
    grammar.Derives [.nonterminal nonterminal] (tree.kinds.map Symbol.terminal) := by
  induction tree with
  | quotient dividend divisor inductionDividend inductionDivisor =>
      simp only [kinds, lexemes, List.map_append, List.map_cons] at *
      exact derives_of_production (by decide)
        (derives_separated .per inductionDividend inductionDivisor)
  | terms whole induction => exact derives_of_production (by decide) induction
  | product first others inductionFirst inductionOthers =>
      simp only [kinds, lexemes, List.map_append, List.map_cons] at *
      exact derives_of_production (by decide)
        (derives_separated .times inductionFirst inductionOthers)
  | single factor induction => exact derives_of_production (by decide) induction
  | power base exponent induction =>
      exact derives_of_production (by decide)
        (induction.append_left [.terminal .name, .terminal .power])
  | name symbol =>
      change grammar.Derives _ [.terminal .name]
      exact derives_of_production (by decide) (.refl _)
  | positive value =>
      change grammar.Derives _ [.terminal .plus, .terminal .number]
      exact derives_of_production (by decide) (.refl _)
  | negative value =>
      change grammar.Derives _ [.terminal .minus, .terminal .number]
      exact derives_of_production (by decide) (.refl _)
  | unsigned value =>
      change grammar.Derives _ [.terminal .number]
      exact derives_of_production (by decide) (.refl _)

end Derivations

/-! ## Derivations are trees

A derivation is followed backwards. Whatever a form yields after a rewriting, it yields
before it: the production that was applied becomes a node of a tree. -/

section Trees

/-- What the symbols of a form may stand for: a terminal for a lexeme of its kind, a
nonterminal for the leaves of a tree. -/
def Yields : List (Symbol Kind Nonterminal) → List Lexeme → Prop
  | [], lexemes => lexemes = []
  | .terminal kind :: form, lexemes =>
      ∃ lexeme rest, lexemes = lexeme :: rest ∧ lexeme.kind = kind ∧ Yields form rest
  | .nonterminal nonterminal :: form, lexemes =>
      ∃ (tree : Tree nonterminal) (rest : List Lexeme),
        lexemes = tree.lexemes ++ rest ∧ Yields form rest

theorem yields_terminals (lexemes : List Lexeme) :
    Yields ((lexemes.map Lexeme.kind).map Symbol.terminal) lexemes := by
  induction lexemes with
  | nil => rfl
  | cons lexeme lexemes induction => exact ⟨lexeme, lexemes, rfl, rfl, induction⟩

theorem Yields.exists_append {front back : List (Symbol Kind Nonterminal)}
    {lexemes : List Lexeme} (yields : Yields (front ++ back) lexemes) :
    ∃ first second, lexemes = first ++ second ∧ Yields front first ∧ Yields back second := by
  induction front generalizing lexemes with
  | nil => exact ⟨[], lexemes, rfl, rfl, yields⟩
  | cons symbol front induction =>
      cases symbol with
      | terminal kind =>
          rcases yields with ⟨lexeme, rest, rfl, matched, yieldsRest⟩
          rcases induction yieldsRest with ⟨first, second, rfl, yieldsFront, yieldsBack⟩
          exact ⟨lexeme :: first, second, rfl, ⟨lexeme, first, rfl, matched, yieldsFront⟩,
            yieldsBack⟩
      | nonterminal nonterminal =>
          rcases yields with ⟨tree, rest, rfl, yieldsRest⟩
          rcases induction yieldsRest with ⟨first, second, rfl, yieldsFront, yieldsBack⟩
          exact ⟨tree.lexemes ++ first, second, (List.append_assoc ..).symm,
            ⟨tree, first, rfl, yieldsFront⟩, yieldsBack⟩

theorem exists_tree_of_production {nonterminal : Nonterminal}
    {output : List (Symbol Kind Nonterminal)} {lexemes : List Lexeme}
    (production : ⟨nonterminal, output⟩ ∈ productions) (yields : Yields output lexemes) :
    ∃ tree : Tree nonterminal, tree.lexemes = lexemes := by
  simp only [productions, List.mem_cons, ContextFreeRule.mk.injEq, List.not_mem_nil,
    or_false] at production
  rcases production with ⟨rfl, rfl⟩ | ⟨rfl, rfl⟩ | ⟨rfl, rfl⟩ | ⟨rfl, rfl⟩ | ⟨rfl, rfl⟩ |
    ⟨rfl, rfl⟩ | ⟨rfl, rfl⟩ | ⟨rfl, rfl⟩ | ⟨rfl, rfl⟩
  · rcases yields with ⟨dividend, _, rfl, _ | _, _, rfl, ⟨⟩, divisor, _, rfl, rfl⟩
    exact ⟨.quotient dividend divisor, by simp [Tree.lexemes]⟩
  · rcases yields with ⟨whole, _, rfl, rfl⟩
    exact ⟨.terms whole, by simp [Tree.lexemes]⟩
  · rcases yields with ⟨first, _, rfl, _ | _, _, rfl, ⟨⟩, others, _, rfl, rfl⟩
    exact ⟨.product first others, by simp [Tree.lexemes]⟩
  · rcases yields with ⟨factor, _, rfl, rfl⟩
    exact ⟨.single factor, by simp [Tree.lexemes]⟩
  · rcases yields with ⟨base | _, _, rfl, ⟨⟩, _ | _, _, rfl, ⟨⟩, exponent, _, rfl, rfl⟩
    exact ⟨.power base exponent, by simp [Tree.lexemes]⟩
  · rcases yields with ⟨symbol | _, _, rfl, ⟨⟩, rfl⟩
    exact ⟨.name symbol, rfl⟩
  · rcases yields with ⟨_ | _, _, rfl, ⟨⟩, _ | value, _, rfl, ⟨⟩, rfl⟩
    exact ⟨.positive value, rfl⟩
  · rcases yields with ⟨_ | _, _, rfl, ⟨⟩, _ | value, _, rfl, ⟨⟩, rfl⟩
    exact ⟨.negative value, rfl⟩
  · rcases yields with ⟨_ | value, _, rfl, ⟨⟩, rfl⟩
    exact ⟨.unsigned value, rfl⟩

theorem Yields.of_rewrites {rule : ContextFreeRule Kind Nonterminal}
    (member : rule ∈ productions) {before after : List (Symbol Kind Nonterminal)}
    (rewritten : rule.Rewrites before after) {lexemes : List Lexeme}
    (yields : Yields after lexemes) : Yields before lexemes := by
  induction rewritten generalizing lexemes with
  | head form =>
      rcases yields.exists_append with ⟨first, second, rfl, yieldsOutput, yieldsForm⟩
      rcases exists_tree_of_production member yieldsOutput with ⟨tree, rfl⟩
      exact ⟨tree, second, rfl, yieldsForm⟩
  | cons symbol rewritten induction =>
      cases symbol with
      | terminal kind =>
          rcases yields with ⟨lexeme, rest, rfl, matched, yieldsRest⟩
          exact ⟨lexeme, rest, rfl, matched, induction yieldsRest⟩
      | nonterminal nonterminal =>
          rcases yields with ⟨tree, rest, rfl, yieldsRest⟩
          exact ⟨tree, rest, rfl, induction yieldsRest⟩

theorem Yields.of_derives {before after : List (Symbol Kind Nonterminal)}
    (derived : grammar.Derives before after) {lexemes : List Lexeme}
    (yields : Yields after lexemes) : Yields before lexemes := by
  induction derived with
  | refl => exact yields
  | tail _ produced induction =>
      rcases produced with ⟨rule, member, rewritten⟩
      exact induction (yields.of_rewrites ((mem_rules rule).mp member) rewritten)

/-- The grammar derives the kinds of exactly those lexemes that are the leaves of a tree. -/
theorem mem_language_iff_exists_tree (lexemes : List Lexeme) :
    lexemes.map Lexeme.kind ∈ grammar.language ↔
      ∃ tree : Tree .expression, tree.lexemes = lexemes := by
  constructor
  · intro derived
    rcases (yields_terminals lexemes).of_derives derived with ⟨tree, _, rfl, rfl⟩
    exact ⟨tree, (List.append_nil _).symm⟩
  · rintro ⟨tree, rfl⟩
    exact tree.derives

end Trees

/-! ## Derivations are unique -/

section Uniqueness

/-- The kinds that could carry on with what a nonterminal derives. -/
def Nonterminal.continuedBy : Nonterminal → List Kind
  | .expression => [.per, .times, .power]
  | .terms => [.times, .power]
  | .term => [.power]
  | .exponent => []

/-- Whether the leaves of a nonterminal end before `rest`. -/
def Nonterminal.EndsBefore (nonterminal : Nonterminal) (rest : List Lexeme) : Prop :=
  ∀ lexeme ∈ rest.head?, lexeme.kind ∉ nonterminal.continuedBy

namespace Nonterminal

theorem endsBefore_nil (nonterminal : Nonterminal) : nonterminal.EndsBefore [] := by
  simp [EndsBefore]

theorem endsBefore_cons {nonterminal : Nonterminal} {lexeme : Lexeme} {rest : List Lexeme} :
    nonterminal.EndsBefore (lexeme :: rest) ↔ lexeme.kind ∉ nonterminal.continuedBy := by
  simp [EndsBefore]

theorem EndsBefore.mono {inner outer : Nonterminal} {rest : List Lexeme}
    (ends : outer.EndsBefore rest) (fewer : inner.continuedBy ⊆ outer.continuedBy) :
    inner.EndsBefore rest := fun lexeme member continued => ends lexeme member (fewer continued)

theorem terms_endsBefore_per (rest : List Lexeme) :
    Nonterminal.terms.EndsBefore (.per :: rest) := endsBefore_cons.mpr (by decide)

theorem exponent_endsBefore (rest : List Lexeme) : Nonterminal.exponent.EndsBefore rest :=
  fun _ _ => List.not_mem_nil

theorem term_endsBefore_times (rest : List Lexeme) :
    Nonterminal.term.EndsBefore (.times :: rest) := endsBefore_cons.mpr (by decide)

end Nonterminal

/-- Two trees that start together are one tree, if each ends where nothing carries it on. -/
theorem Tree.eq_of_lexemes_append {nonterminal : Nonterminal} (first second : Tree nonterminal)
    {rest others : List Lexeme} (ends : nonterminal.EndsBefore rest)
    (endsOthers : nonterminal.EndsBefore others)
    (same : first.lexemes ++ rest = second.lexemes ++ others) : first = second ∧ rest = others := by
  induction first generalizing rest others with
  | quotient dividend divisor inductionDividend inductionDivisor =>
      cases second with
      | quotient otherDividend otherDivisor =>
          simp only [lexemes, List.append_assoc, List.cons_append] at same
          rcases inductionDividend otherDividend (Nonterminal.terms_endsBefore_per _)
            (Nonterminal.terms_endsBefore_per _) same with ⟨rfl, sameTail⟩
          rcases inductionDivisor otherDivisor (ends.mono (by decide))
            (endsOthers.mono (by decide)) (List.tail_eq_of_cons_eq sameTail) with ⟨rfl, sameRest⟩
          exact ⟨rfl, sameRest⟩
      | terms whole =>
          simp only [lexemes, List.append_assoc, List.cons_append] at same
          rcases inductionDividend whole (Nonterminal.terms_endsBefore_per _)
            (endsOthers.mono (by decide)) same with ⟨_, rfl⟩
          exact absurd (by decide) (Nonterminal.endsBefore_cons.mp endsOthers)
  | terms whole induction =>
      cases second with
      | quotient dividend divisor =>
          simp only [lexemes, List.append_assoc, List.cons_append] at same
          rcases induction dividend (ends.mono (by decide))
            (Nonterminal.terms_endsBefore_per _) same with ⟨_, rfl⟩
          exact absurd (by decide) (Nonterminal.endsBefore_cons.mp ends)
      | terms otherWhole =>
          rcases induction otherWhole (ends.mono (by decide)) (endsOthers.mono (by decide)) same
            with ⟨rfl, sameRest⟩
          exact ⟨rfl, sameRest⟩
  | product factor factors inductionFactor inductionFactors =>
      cases second with
      | product otherFactor otherFactors =>
          simp only [lexemes, List.append_assoc, List.cons_append] at same
          rcases inductionFactor otherFactor (Nonterminal.term_endsBefore_times _)
            (Nonterminal.term_endsBefore_times _) same with ⟨rfl, sameTail⟩
          rcases inductionFactors otherFactors ends endsOthers (List.tail_eq_of_cons_eq sameTail)
            with ⟨rfl, sameRest⟩
          exact ⟨rfl, sameRest⟩
      | single otherFactor =>
          simp only [lexemes, List.append_assoc, List.cons_append] at same
          rcases inductionFactor otherFactor (Nonterminal.term_endsBefore_times _)
            (endsOthers.mono (by decide)) same with ⟨_, rfl⟩
          exact absurd (by decide) (Nonterminal.endsBefore_cons.mp endsOthers)
  | single factor induction =>
      cases second with
      | product otherFactor otherFactors =>
          simp only [lexemes, List.append_assoc, List.cons_append] at same
          rcases induction otherFactor (ends.mono (by decide))
            (Nonterminal.term_endsBefore_times _) same with ⟨_, rfl⟩
          exact absurd (by decide) (Nonterminal.endsBefore_cons.mp ends)
      | single otherFactor =>
          rcases induction otherFactor (ends.mono (by decide)) (endsOthers.mono (by decide)) same
            with ⟨rfl, sameRest⟩
          exact ⟨rfl, sameRest⟩
  | power base exponent induction =>
      cases second with
      | power otherBase otherExponent =>
          simp only [lexemes, List.cons_append, List.cons.injEq, Lexeme.name.injEq] at same
          rcases same with ⟨rfl, _, sameTail⟩
          rcases induction otherExponent (Nonterminal.exponent_endsBefore _)
            (Nonterminal.exponent_endsBefore _) sameTail with ⟨rfl, sameRest⟩
          exact ⟨rfl, sameRest⟩
      | name symbol =>
          simp only [lexemes, List.cons_append, List.nil_append, List.cons.injEq] at same
          rcases same with ⟨_, rfl⟩
          exact absurd (by decide) (Nonterminal.endsBefore_cons.mp endsOthers)
  | name symbol =>
      cases second with
      | power base exponent =>
          simp only [lexemes, List.cons_append, List.nil_append, List.cons.injEq] at same
          rcases same with ⟨_, rfl⟩
          exact absurd (by decide) (Nonterminal.endsBefore_cons.mp ends)
      | name otherSymbol => simpa [lexemes] using same
  | positive value => cases second <;> simp_all [lexemes]
  | negative value => cases second <;> simp_all [lexemes]
  | unsigned value => cases second <;> simp_all [lexemes]

theorem Tree.eq_of_lexemes_eq {nonterminal : Nonterminal} {first second : Tree nonterminal}
    (same : first.lexemes = second.lexemes) : first = second :=
  (first.eq_of_lexemes_append second nonterminal.endsBefore_nil nonterminal.endsBefore_nil
    (congrArg (· ++ []) same)).1

end Uniqueness

end Grammar

end Metrology
