import Metrology.Arithmetic
import Metrology.Factor
import Metrology.Fraction

/-!
Symbolic ratios: a fraction of numbers beside a fraction of names, kept cancelled.
They stand behind dimensions (`L/T^2`) and unit symbols (`kg*m/s^2`). Integers
enter as their prime factors. A ratio carries its text, and two ratios are equal
when their texts are.

What counts as a number is open: a ratio is written over any type of literals that
has factors and a text for a fraction of them.
-/

namespace Metrology

/-- Their `==` says which of them are one and the same term. -/
class Literal (ν : Type) extends BEq ν where
  ofNumber : Number → ν
  factors : ν → List ν
  fractionText : Fraction ν → Result String

/-! ## Fractions of numbers -/

def product {α : Type} [Arithmetic α] (normalize : α → α) (values : List α) : Result α := do
  return normalize (← values.foldlM Arithmetic.mul (← Arithmetic.constant 1))

/-- A quotient that comes to one is left out, judged as it comes out when it is
calculated. -/
def quotientText {α : Type} [Arithmetic α] [Decimal α] (normalize : α → α)
    (fraction : Fraction α) : Result String := do
  let above ← product normalize fraction.above
  let below ← product normalize fraction.below
  let one ← Arithmetic.constant 1
  if ← Arithmetic.equals (← Arithmetic.div above below) one then return ""
  else if ← Arithmetic.equals below one then Decimal.compactText above
  else return (← Decimal.compactText above) ++ "/" ++ (← Decimal.compactText below)

instance : Literal Number where
  ofNumber := id
  factors := Number.factors
  fractionText := quotientText Number.normalize

/-! ## Terms -/

inductive Term (ν : Type) where
  | literal (value : ν)
  | name (value : String)
  deriving DecidableEq, Repr

namespace Term

variable {ν : Type}

/-- Ones add nothing. -/
def literals [Literal ν] : Term ν → List ν
  | .literal value => (Literal.factors value).filter fun factor => !(factor == Literal.ofNumber 1)
  | .name _ => []

/-- The empty name stands for no name. -/
def names : Term ν → List String
  | .literal _ => []
  | .name value => if value.isEmpty then [] else [value]

end Term

/-! ## Fractions of names -/

/-- Names are ordered by code point. -/
def insertName (name : String) : List String → List String
  | [] => [name]
  | other :: rest => if other < name then other :: insertName name rest else name :: other :: rest

def orderNames (names : List String) : List String := names.foldr insertName []

def powerText (name : String) (count : Int) : String :=
  if count = 1 then name else s!"{name}^{count}"

def productText (names : List String) : String :=
  let powers := (Fraction.netCounts ⟨names, []⟩).map fun (name, count) => powerText name count
  String.intercalate "*" (orderNames powers)

/-- A lone denominator stands under a one. -/
def symbolicText (names : Fraction String) : String :=
  let above := productText names.above
  let below := productText names.below
  if below.isEmpty then above
  else (if above.isEmpty then "1" else above) ++ "/" ++ below

def spaced (first second : String) : String :=
  if first.isEmpty then second
  else if second.isEmpty then first
  else first ++ " " ++ second

/-! ## Parts -/

structure Parts (ν : Type) where
  literal : Fraction ν
  symbolic : Fraction String
  deriving DecidableEq, Repr

namespace Parts

variable {ν : Type}

def times (left right : Parts ν) : Parts ν :=
  ⟨left.literal.times right.literal, left.symbolic.times right.symbolic⟩

def inverse (parts : Parts ν) : Parts ν := ⟨parts.literal.inverse, parts.symbolic.inverse⟩

variable [Literal ν]

def ofTerms (above below : List (Term ν)) : Parts ν :=
  ⟨⟨above.flatMap Term.literals, below.flatMap Term.literals⟩,
   ⟨above.flatMap Term.names, below.flatMap Term.names⟩⟩

def cancel (parts : Parts ν) : Parts ν := ⟨parts.literal.cancel, parts.symbolic.cancel⟩

def text (parts : Parts ν) : Result String := do
  return spaced (← Literal.fractionText parts.literal) (symbolicText parts.symbolic)

/-- Without numbers there is nothing that could fail. -/
theorem text_symbolic (names : Fraction String) :
    text (⟨.empty, names⟩ : Parts Number) = .ok (symbolicText names) := by
  have blank : Literal.fractionText (Fraction.empty : Fraction Number) = .ok "" := by
    decide +kernel
  simp [text, blank, spaced, bind, Except.bind, pure, Except.pure]

end Parts

/-! ## Ratios -/

/-- The text is determined by the parts; keeping it makes equality cheap, and
writing it is where a ratio may fail to exist. -/
structure Ratio (ν : Type) extends Parts ν where
  text : String
  deriving DecidableEq, Repr

namespace Ratio

variable {ν : Type}

def ofNames (names : Fraction String) : Ratio ν := ⟨⟨.empty, names.cancel⟩, symbolicText names.cancel⟩

def ofName (name : String) : Ratio ν := ofNames ⟨(Term.name name : Term ν).names, []⟩

def one : Ratio ν := ofNames .empty

def isOne (ratio : Ratio ν) : Bool := ratio.text.isEmpty

def equals (left right : Ratio ν) : Bool := left.text == right.text

theorem equals_comm (left right : Ratio ν) : left.equals right = right.equals left := BEq.comm

def shown (ratio : Ratio ν) : String := "SymbolicRational(" ++ quoted ratio.text ++ ")"

def map {μ : Type} (convert : ν → μ) (ratio : Ratio ν) : Ratio μ :=
  ⟨⟨ratio.literal.map convert, ratio.symbolic⟩, ratio.text⟩

def numerator (ratio : Ratio ν) : List (Term ν) :=
  ratio.literal.above.map .literal ++ ratio.symbolic.above.map .name

def denominator (ratio : Ratio ν) : List (Term ν) :=
  ratio.literal.below.map .literal ++ ratio.symbolic.below.map .name

variable [Literal ν]

def ofParts (parts : Parts ν) : Result (Ratio ν) := do
  return ⟨parts.cancel, ← parts.cancel.text⟩

def ofTerms (above below : List (Term ν)) : Result (Ratio ν) := ofParts (.ofTerms above below)

def ofTerm (term : Term ν) : Result (Ratio ν) := ofTerms [term] []

/-! ## Algebra -/

/-- The factors of both are prime already and are not taken apart again. -/
def times (left right : Ratio ν) : Result (Ratio ν) := ofParts (left.toParts.times right.toParts)

def divide (left right : Ratio ν) : Result (Ratio ν) :=
  ofParts (left.toParts.times right.toParts.inverse)

/-- The first fault ends it, however many times remain. -/
def multiplyOn (ratio product : Ratio ν) : Nat → Result (Ratio ν)
  | 0 => .ok product
  | count + 1 => do ratio.multiplyOn (← product.times ratio) count

def powerNat (ratio : Ratio ν) : Nat → Result (Ratio ν)
  | 0 => .ok one
  | count + 1 => ratio.multiplyOn ratio count

def power (ratio : Ratio ν) (exponent : Int) : Result (Ratio ν) :=
  if exponent < 0 then do one.divide (← ratio.powerNat exponent.natAbs)
  else ratio.powerNat exponent.toNat

example :
    (ofTerms [.literal (2 : Number), .name "x", .name "x", .name "y"]
      [.name "y", .literal 4, .name "z"]).map Ratio.text = .ok "1/2 x^2/z" := by
  decide +kernel

end Ratio
end Metrology
