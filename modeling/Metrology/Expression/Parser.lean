import Metrology.Expression.Lexer

/-!
Parsing tokens into a plan, by this grammar:

    expression := terms '/' terms | terms
    terms      := term '*' terms | term
    term       := name '^' exponent | name
    exponent   := '+' number | '-' number | number

Every rule takes what it can from the front of the tokens and returns the rest, or
takes nothing and fails. The first alternative that fits is kept.
-/

namespace Metrology

/-- What a unit expression asks for, before any name is looked up. -/
inductive Plan where
  | name (symbol : String)
  | power (base : Plan) (exponent : Int)
  | product (left right : Plan)
  | quotient (dividend divisor : Plan)
  deriving DecidableEq, Repr

/-- A product of plans, nested to the right. -/
def Plan.chain (first : Plan) : List Plan → Plan
  | [] => first
  | second :: rest => .product first (second.chain rest)

namespace Parser

/-! ## Terms -/

def exponent? : List Token → Option (Int × List Token)
  | ⟨.minus, _⟩ :: ⟨.number value, _⟩ :: rest => some (-value, rest)
  | ⟨.plus, _⟩ :: ⟨.number value, _⟩ :: rest => some (value, rest)
  | ⟨.number value, _⟩ :: rest => some (value, rest)
  | _ => none

def term? : List Token → Option (Plan × List Token)
  | ⟨.name symbol, _⟩ :: ⟨.power, position⟩ :: rest =>
      match exponent? rest with
      | some (exponent, rest) => some (.power (.name symbol) exponent, rest)
      | none => some (.name symbol, ⟨.power, position⟩ :: rest)
  | ⟨.name symbol, _⟩ :: rest => some (.name symbol, rest)
  | _ => none

theorem length_of_exponent? {tokens rest : List Token} {exponent : Int}
    (found : exponent? tokens = some (exponent, rest)) : rest.length < tokens.length := by
  unfold exponent? at found
  split at found <;> simp only [Option.some.injEq, Prod.mk.injEq, reduceCtorEq] at found <;>
    simp only [← found.2, List.length_cons] <;> omega

theorem length_of_term? {tokens rest : List Token} {plan : Plan}
    (found : term? tokens = some (plan, rest)) : rest.length < tokens.length := by
  unfold term? at found
  split at found
  · split at found
    · next taken =>
        have shorter := length_of_exponent? taken
        simp only [Option.some.injEq, Prod.mk.injEq] at found
        simp only [← found.2, List.length_cons]
        omega
    · simp only [Option.some.injEq, Prod.mk.injEq] at found
      simp [← found.2]
  · simp only [Option.some.injEq, Prod.mk.injEq] at found
    simp [← found.2]
  · simp at found

/-! ## Products -/

/-- An operator that no term follows is left where it is. -/
def factors : List Token → List Plan × List Token
  | ⟨.times, position⟩ :: rest =>
      match _found : term? rest with
      | some (factor, remaining) =>
          let (others, final) := factors remaining
          (factor :: others, final)
      | none => ([], ⟨.times, position⟩ :: rest)
  | tokens => ([], tokens)
termination_by tokens => tokens.length
decreasing_by
  have shorter := length_of_term? _found
  simp only [List.length_cons]
  omega

def terms? (tokens : List Token) : Option (Plan × List Token) := do
  let (first, rest) ← term? tokens
  let (others, final) := factors rest
  return (first.chain others, final)

/-! ## Expressions -/

def quotient? (tokens : List Token) : Option (Plan × List Token) := do
  match ← terms? tokens with
  | (dividend, ⟨.per, _⟩ :: rest) =>
      let (divisor, final) ← terms? rest
      return (.quotient dividend divisor, final)
  | _ => none

def expression? (tokens : List Token) : Option (Plan × List Token) :=
  match quotient? tokens with
  | some found => some found
  | none => terms? tokens

/-- The position of the first token; past the last one it is the end of the text. -/
def positionOf (textLength : Nat) : List Token → Nat
  | [] => textLength
  | token :: _ => token.position

def parse (textLength : Nat) (tokens : List Token) : Result Plan :=
  match expression? tokens with
  | some (plan, []) => .ok plan
  | some (_, rest) => .error (.malformed (positionOf textLength rest))
  | none => .error (.malformed (positionOf textLength tokens))

end Parser

def Plan.ofText (text : String) : Result Plan := do
  Parser.parse text.length (← tokenize text)

example : Plan.ofText "kg*m/s^2" =
    .ok (.quotient (.product (.name "kg") (.name "m")) (.power (.name "s") 2)) := by
  decide +kernel

/-- A dangling operator is where the expression stops to be one. -/
example : Plan.ofText "m*" = .error (.malformed 1) := by decide +kernel

end Metrology
