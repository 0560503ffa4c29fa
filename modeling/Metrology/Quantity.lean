import Metrology.MeasurementUnit

/-!
Quantities: a magnitude in a unit. Sums, differences and comparisons are made in
the unit of the left operand and need equal dimensions; products and quotients
compose the units.
-/

namespace Metrology

structure Quantity (δ ν α : Type) where
  value : α
  unit : MeasurementUnit δ ν

namespace Quantity

variable {δ ν α : Type}

/-! ## Text -/

def text (magnitude : String) (quantity : Quantity δ ν α) : String :=
  let symbol := quantity.unit.symbol
  if symbol.isEmpty then magnitude else magnitude ++ " " ++ symbol

def shown (magnitude : String) (quantity : Quantity δ ν α) : String :=
  "Quantity(" ++ magnitude ++ ", " ++ quoted quantity.unit.symbol ++ ")"

/-! ## Numbers beside quantities -/

section Numbers

variable [Arithmetic α]

def toBase (quantity : Quantity δ ν α) : Result α := quantity.unit.toBase quantity.value

def scale (quantity : Quantity δ ν α) (factor : α) : Result (Quantity δ ν α) := do
  return ⟨← Arithmetic.mul quantity.value factor, quantity.unit⟩

def scaleLeft (factor : α) (quantity : Quantity δ ν α) : Result (Quantity δ ν α) := do
  return ⟨← Arithmetic.mul factor quantity.value, quantity.unit⟩

def part (quantity : Quantity δ ν α) (divisor : α) : Result (Quantity δ ν α) := do
  return ⟨← Arithmetic.div quantity.value divisor, quantity.unit⟩

def negate (quantity : Quantity δ ν α) : Result (Quantity δ ν α) := do
  return ⟨← Arithmetic.neg quantity.value, quantity.unit⟩

end Numbers

/-! ## Products and quotients -/

section Products

variable [Dimensional δ] [Literal ν] [Arithmetic α]

def times (left right : Quantity δ ν α) : Result (Quantity δ ν α) := do
  return ⟨← Arithmetic.mul left.value right.value, ← left.unit.times right.unit⟩

def divide (left right : Quantity δ ν α) : Result (Quantity δ ν α) := do
  return ⟨← Arithmetic.div left.value right.value, ← left.unit.divide right.unit⟩

def divideInto (dividend : α) (quantity : Quantity δ ν α) : Result (Quantity δ ν α) := do
  return ⟨← Arithmetic.div dividend quantity.value, ← quantity.unit.reciprocal⟩

end Products

/-! ## Conversion -/

section Conversion

variable [Dimensional δ] [Arithmetic α]

def requireCompatible (left right : MeasurementUnit δ ν) : Result PUnit := do
  if ← Dimensional.equals left.dimension right.dimension then return ⟨⟩
  else throw (.incompatible left.symbol right.symbol)

/-- A unit that is written alike is the same unit, and then nothing is computed. -/
def convert (quantity : Quantity δ ν α) (target : MeasurementUnit δ ν) :
    Result (Quantity δ ν α) := do
  requireCompatible quantity.unit target
  if quantity.unit.equals target then return quantity
  else
    let base ← quantity.unit.toBase quantity.value
    return ⟨← target.fromBase base, target⟩

/-- The magnitude of another quantity in the unit of this one. -/
def reading (quantity other : Quantity δ ν α) : Result α := do
  requireCompatible quantity.unit other.unit
  return (← other.convert quantity.unit).value

/-! ## Sums and differences -/

def add (left right : Quantity δ ν α) : Result (Quantity δ ν α) := do
  return ⟨← Arithmetic.add left.value (← left.reading right), left.unit⟩

def subtract (left right : Quantity δ ν α) : Result (Quantity δ ν α) := do
  return ⟨← Arithmetic.sub left.value (← left.reading right), left.unit⟩

/-! ## Comparison -/

/-- Equality of two quantities of one dimension, each magnitude seen through
`view`; the right one is converted first unless the units are the same. -/
def equalsBy (view : α → Result α) (left right : Quantity δ ν α) : Result Bool := do
  if ← Dimensional.equals left.unit.dimension right.unit.dimension then
    let right ← if left.unit.equals right.unit then pure right else right.convert left.unit
    let seen ← view left.value
    Arithmetic.equals seen (← view right.value)
  else
    let leftDimension ← Dimensional.text left.unit.dimension
    let rightDimension ← Dimensional.text right.unit.dimension
    throw (.incomparable leftDimension rightDimension left.unit.symbol right.unit.symbol)

/-- Strict equality: quantities of different dimensions cannot be compared. -/
def equals (left right : Quantity δ ν α) : Result Bool := equalsBy .ok left right

/-- Equality as an operator: quantities of different dimensions are unequal. -/
def same (left right : Quantity δ ν α) : Result Bool := do
  if ← Dimensional.equals left.unit.dimension right.unit.dimension then left.equals right
  else return false

def compares (comparison : Comparison) (left right : Quantity δ ν α) : Result Bool := do
  Arithmetic.compares comparison left.value (← left.reading right)

end Conversion

/-! ## Decimal places -/

section Places

variable [Arithmetic α] [Decimal α]

/-- A magnitude cut off, not rounded, after decimal places. The places need not be a
whole number: they are an exponent of ten. -/
def truncate (places : Number) (value : α) : Result α := do
  let scale ← Number.powerOfTen places
  let whole ← Decimal.floor (← Arithmetic.mul value (← Arithmetic.constant scale))
  Arithmetic.constant (← Number.div (.int whole) scale)

def getValue (places : Number) (quantity : Quantity δ ν α) : Result α :=
  truncate places quantity.value

def equalsAt [Dimensional δ] (places : Number) (left right : Quantity δ ν α) : Result Bool :=
  equalsBy (truncate places) left right

def keyPlaces : Int := 12

/-- A key for looking quantities up: the dimension, and the rounded magnitude in the
base unit. A zero of any kind is the positive zero. -/
def asKeyBy [Dimensional δ] (round : α → Result Number) (quantity : Quantity δ ν α) :
    Result (String × Number) := do
  let rounded ← round (← quantity.toBase)
  let folded := if rounded.equals .zero then .float .zero else rounded
  return (← Dimensional.text quantity.unit.dimension, folded)

def asKey [Dimensional δ] (places : Option Int) (quantity : Quantity δ ν α) :
    Result (String × Number) :=
  quantity.asKeyBy (Decimal.round places)

end Places

end Quantity
end Metrology
