import Metrology.Ratio

/-!
Dimensions: what a unit measures, as a ratio of base dimension symbols. Quantities
convert into one another exactly when their dimensions are equal.
-/

namespace Metrology

/-- What can stand as the dimension of a unit. Anything may fail, because what
stands there may turn out not to measure anything. -/
class Dimensional (δ : Type) where
  dimensionless : δ
  times : δ → δ → Result δ
  divide : δ → δ → Result δ
  equals : δ → δ → Result Bool
  text : δ → Result String

structure Dimension (ν : Type) where
  representation : Ratio ν
  deriving DecidableEq, Repr

namespace Dimension

variable {ν : Type}

def equals (left right : Dimension ν) : Bool :=
  left.representation.equals right.representation

def isDimensionless (dimension : Dimension ν) : Bool := dimension.representation.isOne

def text (dimension : Dimension ν) : String := dimension.representation.text

/-- The text in listings, where nothing at all is written as a one. -/
def shown (dimension : Dimension ν) : String :=
  "Dimension(" ++ (if dimension.text.isEmpty then "1" else dimension.text) ++ ")"

def map {μ : Type} (convert : ν → μ) (dimension : Dimension ν) : Dimension μ :=
  ⟨dimension.representation.map convert⟩

/-! ## Algebra -/

variable [Literal ν]

def times (left right : Dimension ν) : Result (Dimension ν) := do
  return ⟨← left.representation.times right.representation⟩

def divide (left right : Dimension ν) : Result (Dimension ν) := do
  return ⟨← left.representation.divide right.representation⟩

def power (dimension : Dimension ν) (exponent : Int) : Result (Dimension ν) := do
  return ⟨← dimension.representation.power exponent⟩

instance : Dimensional (Dimension ν) where
  dimensionless := ⟨Ratio.one⟩
  times := times
  divide := divide
  equals left right := .ok (left.equals right)
  text dimension := .ok dimension.text

/-! ## Base dimensions -/

def ofSymbol (symbol : String) : Dimension Number := ⟨Ratio.ofName symbol⟩

def dimensionless : Dimension Number := ⟨Ratio.one⟩
def length : Dimension Number := ofSymbol "L"
def mass : Dimension Number := ofSymbol "M"
def time : Dimension Number := ofSymbol "T"
def electricCurrent : Dimension Number := ofSymbol "I"
def temperature : Dimension Number := ofSymbol "θ"
def amountOfSubstance : Dimension Number := ofSymbol "N"
def luminousIntensity : Dimension Number := ofSymbol "J"

def named : List (String × Dimension Number) :=
  [("DIMENSIONLESS", dimensionless), ("NONE", dimensionless), ("LENGTH", length),
   ("MASS", mass), ("TIME", time), ("ELECTRIC_CURRENT", electricCurrent),
   ("TEMPERATURE", temperature), ("AMOUNT_OF_SUBSTANCE", amountOfSubstance),
   ("LUMINOUS_INTENSITY", luminousIntensity)]

example : (length.divide time).map text = .ok "L/T" := by decide +kernel

end Dimension
end Metrology
