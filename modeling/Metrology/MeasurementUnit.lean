import Metrology.Conversion.Pipeline
import Metrology.Dimension
import Metrology.Scalar

/-!
Units of measurement. A base unit sets the scale of its dimension; every other
unit is derived by algebra, and the algebra composes its conversion. A unit's
symbol decides equality: two units that are written alike are the same unit.

What measures (`δ`) and what numbers a symbol may hold (`ν`) are open; the units of
the catalogue are `StandardUnit`s.
-/

namespace Metrology

structure MeasurementUnit (δ ν : Type) where
  dimension : δ
  representation : Ratio ν
  /-- From a magnitude in this unit to the magnitude in the base unit. -/
  conversion : Pipeline (Action Number)
  isBase : Bool
  deriving DecidableEq

abbrev StandardUnit : Type := MeasurementUnit (Dimension Number) Number

namespace MeasurementUnit

variable {δ ν : Type}

def base (dimension : δ) (representation : Ratio ν) : MeasurementUnit δ ν :=
  ⟨dimension, representation, .identity, true⟩

def ofSymbol (dimension : δ) (symbol : String) : MeasurementUnit δ ν :=
  base dimension (Ratio.ofName symbol)

def symbol (unit : MeasurementUnit δ ν) : String := unit.representation.text

def equals (left right : MeasurementUnit δ ν) : Bool :=
  left.representation.equals right.representation

def shown (dimension : String) (unit : MeasurementUnit δ ν) : String :=
  "Unit(" ++ quoted unit.symbol ++ ", dimension=" ++
    quoted (if dimension.isEmpty then "1" else dimension) ++ ", " ++
    (if unit.isBase then "base" else "derived") ++ ")"

def map {ε μ : Type} (measure : δ → ε) (convert : ν → μ) (unit : MeasurementUnit δ ν) :
    MeasurementUnit ε μ :=
  ⟨measure unit.dimension, unit.representation.map convert, unit.conversion, unit.isBase⟩

/-! ## Products and quotients of units -/

section Algebra

variable [Dimensional δ] [Literal ν]

def one : MeasurementUnit δ ν := base Dimensional.dimensionless Ratio.one

def times (left right : MeasurementUnit δ ν) : Result (MeasurementUnit δ ν) := do
  let dimension ← Dimensional.times left.dimension right.dimension
  let representation ← left.representation.times right.representation
  return ⟨dimension, representation, left.conversion.concat right.conversion, false⟩

def divide (left right : MeasurementUnit δ ν) : Result (MeasurementUnit δ ν) := do
  let dimension ← Dimensional.divide left.dimension right.dimension
  let representation ← left.representation.divide right.representation
  return ⟨dimension, representation, left.conversion.concat right.conversion.inverse, false⟩

def reciprocal (unit : MeasurementUnit δ ν) : Result (MeasurementUnit δ ν) := one.divide unit

/-- The first fault ends it, however many times remain. -/
def multiplyOn (unit product : MeasurementUnit δ ν) : Nat → Result (MeasurementUnit δ ν)
  | 0 => .ok product
  | count + 1 => do unit.multiplyOn (← unit.times product) count

def powerNat (unit : MeasurementUnit δ ν) (exponent : Nat) : Result (MeasurementUnit δ ν) :=
  unit.multiplyOn unit (exponent - 1)

/-- The power of a unit; an exponent that is no integer of at least one is refused. -/
def power (unit : MeasurementUnit δ ν) : Scalar → Result (MeasurementUnit δ ν)
  | .number (.int exponent) =>
      if exponent < 1 then do throw (.unitPower (← integerText exponent))
      else unit.powerNat exponent.toNat
  | other => do throw (.unitPower (← other.shown))

end Algebra

/-! ## Scales and offsets -/

section Scales

variable [Literal ν]

def scale (unit : MeasurementUnit δ ν) (factor : Number) : Result (MeasurementUnit δ ν) := do
  let factor := factor.normalize
  let ratio ← Ratio.ofTerm (.literal (Literal.ofNumber factor))
  let representation ← unit.representation.times ratio
  let step := Step.multiply factor (← factor.compactText)
  return ⟨unit.dimension, representation, unit.conversion.push step, false⟩

/-- The unit of which `divisor` make one of this. -/
def part (unit : MeasurementUnit δ ν) (divisor : Number) : Result (MeasurementUnit δ ν) := do
  let divisor := divisor.normalize
  let ratio ← Ratio.ofTerm (.literal (Literal.ofNumber divisor))
  let representation ← unit.representation.divide ratio
  let step := Step.divide divisor (← divisor.compactText)
  return ⟨unit.dimension, representation, unit.conversion.push step, false⟩

/-- The unit whose zero lies `amount` below the zero of this one. It has no symbol
of its own yet and needs one. -/
def shift (unit : MeasurementUnit δ ν) (amount : Number) : Result (MeasurementUnit δ ν) := do
  let step := Step.add amount (← amount.compactText)
  return ⟨unit.dimension, unit.representation, ⟨step :: unit.conversion.steps⟩, false⟩

end Scales

/-! ## Symbols -/

def rename (unit : MeasurementUnit δ ν) (representation : Ratio ν) : MeasurementUnit δ ν :=
  { unit with representation }

def withSymbol (unit : MeasurementUnit δ ν) (symbol : String) : MeasurementUnit δ ν :=
  unit.rename (Ratio.ofName symbol)

/-! ## Conversion -/

def toBase {α : Type} [Arithmetic α] (unit : MeasurementUnit δ ν) (value : α) : Result α :=
  unit.conversion.apply value

def fromBase {α : Type} [Arithmetic α] (unit : MeasurementUnit δ ν) (value : α) : Result α :=
  unit.conversion.unapply value

end MeasurementUnit
end Metrology
