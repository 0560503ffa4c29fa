import Metrology.Worksheet.Operations

/-!
Powers of items. An operator takes integers as exponents of ratios and dimensions;
the power that is asked for by name also takes a double where no product has to be
counted.
-/

namespace Metrology.Item

def integerExponent (exponent : Item) : Result Int :=
  match exponent.toInt with
  | .ok exponent => .ok exponent
  | .error _ => .error (.exponentKind exponent.kind)

/-- The doubles of minus one, zero and one count as integers. -/
def looseExponent (exponent : Item) : Result Int := do
  match ← exponent.toNumber with
  | .int exponent => return exponent
  | value =>
      match [-1, 0, 1].find? fun (exponent : Int) => value.equals (.int exponent) with
      | some exponent => return exponent
      | none => throw .unsupported

def unitPower (base : ItemUnit) (exponent : Item) : Result ItemUnit :=
  match exponent with
  | scalar value => base.power value
  | other => do throw (.unitPower (← other.shown))

def raised : Item → Item → Result Item
  | scalar base, scalar exponent => do return scalar (← base.power exponent)
  | ratio base, exponent => do return ratio (← base.power (← exponent.integerExponent))
  | dimension base, exponent => do
      return dimension ⟨← base.representation.power (← exponent.integerExponent)⟩
  | unit base, exponent => do return unit (← unitPower base exponent)
  | _, _ => .error .unsupported

/-- Without a modulus it is the plain power. -/
def raisedModulo : Item → Item → Item → Result Item
  | base, exponent, scalar .absent => base.raised exponent
  | dimension _, _, _ => .error .modularPower
  | base, exponent, modulus => do
      return int (← modularPower (← base.toInt) (← exponent.toInt) (← modulus.toInt))

end Metrology.Item
