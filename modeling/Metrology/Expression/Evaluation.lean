import Metrology.Expression.Parser
import Metrology.MeasurementUnit

/-!
Evaluating plans. Names are looked up where the plan is evaluated; one that stands
for nothing becomes a dimensionless unit of its own. The factors of a product are
evaluated from left to right and then multiplied from the right.
-/

namespace Metrology

class Composable (υ : Type) where
  times : υ → υ → Result υ
  divide : υ → υ → Result υ
  /-- The power with an exponent of at least one. -/
  power : υ → Int → Result υ
  /-- What a name stands for that nothing is bound to. -/
  placeholder : String → υ

instance {δ ν : Type} [Dimensional δ] [Literal ν] : Composable (MeasurementUnit δ ν) where
  times := MeasurementUnit.times
  divide := MeasurementUnit.divide
  power unit exponent := unit.power (.int exponent)
  placeholder := MeasurementUnit.ofSymbol Dimensional.dimensionless

abbrev Lookup (υ : Type) : Type := String → Option υ

namespace Plan

variable {υ : Type} [Composable υ]

def resolve (lookup : Lookup υ) (symbol : String) : υ :=
  (lookup symbol).getD (Composable.placeholder symbol)

/-- From the right. -/
def multiply (first : υ) : List υ → Result υ
  | [] => .ok first
  | second :: rest => do Composable.times first (← multiply second rest)

/-- The factors along the right spine of a plan, evaluated from left to right. -/
def evaluateFactors (lookup : Lookup υ) : Plan → Result (υ × List υ)
  | name symbol => .ok (resolve lookup symbol, [])
  | power base exponent => do
      let (first, rest) ← evaluateFactors lookup base
      let base ← multiply first rest
      if exponent < 1 then throw (.expressionPower (← integerText exponent))
      return (← Composable.power base exponent, [])
  | product left right => do
      let (first, rest) ← evaluateFactors lookup left
      let left ← multiply first rest
      let (second, others) ← evaluateFactors lookup right
      return (left, second :: others)
  | quotient dividend divisor => do
      let (first, rest) ← evaluateFactors lookup dividend
      let dividend ← multiply first rest
      let (second, others) ← evaluateFactors lookup divisor
      return (← Composable.divide dividend (← multiply second others), [])

def evaluate (lookup : Lookup υ) (plan : Plan) : Result υ := do
  let (first, rest) ← evaluateFactors lookup plan
  multiply first rest

end Plan

def evaluateText {υ : Type} [Composable υ] (lookup : Lookup υ) (text : String) : Result υ := do
  (← Plan.ofText text).evaluate lookup

/-- Without a table every name stands for itself. -/
example : (evaluateText (fun _ => (none : Option StandardUnit)) "b*a/c^2").map
    MeasurementUnit.symbol = .ok "a*b/c^2" := by
  decide +kernel

end Metrology
