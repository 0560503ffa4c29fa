import Metrology.Worksheet.Parts

/-!
Displays in a worksheet: making transforms from items, and applying whatever can be
applied to something. A converter may be a chain of any items; one that cannot be
applied is found out when the chain is run.
-/

namespace Metrology

namespace Item

/-- A tuple of a single number will do. -/
def groupSize (item : Item) : Result Number :=
  match item.tuple? with
  | some [size] => size.toNumber
  | some _ => .error .unsupported
  | none => item.toNumber

/-- The first count of decimal places that is too large for a text. -/
def placesBound : Int := 0x80000000

def textPlaces : Item → Option Nat
  | scalar (.number (.int places)) =>
      if 0 ≤ places ∧ places < placesBound then some places.toNat else none
  | _ => none

end Item

namespace Sheet

/-! ## Construction -/

def roundingTo (places : Item) (keepsZeros : Bool) : Result (Transform Item) := do
  let scale ← Number.powerOfTen (← places.toNumber)
  return .roundTo places.textPlaces scale keepsZeros

def makeTransform (sheet : Sheet) : TransformKind → List Item → Result (Transform Item)
  | .divideBy, [divisor] => .ok (.divideBy divisor)
  | .multiplyBy, [factor] => .ok (.multiplyBy factor)
  | .roundTo, [places] => roundingTo places false
  | .roundTo, [places, keepsZeros] => roundingTo places (sheet.isTrue keepsZeros)
  | .leadWith, [lead] => .ok (.leadWith lead)
  | .endWith, [tail] => .ok (.endWith tail)
  | .groupDigits, [size] => do Transform.groupingDigits (← size.groupSize) (some ",")
  | .groupDigits, [size, separator] => do
      Transform.groupingDigits (← size.groupSize) separator.toText?
  | .shout, [] => .ok (.shout (some "!"))
  | .shout, [mark] => .ok (.shout mark.toText?)
  | _, _ => .error .unsupported

def namedTransform (sheet : Sheet) (name : Item) (operands : List Item) : Result Item := do
  if !name.isKey then throw .unsupported
  match sheet.transforms.get? name with
  | some kind => return .transform (.fresh (← sheet.makeTransform kind operands))
  | none => throw .unknownName

def addTransform (sheet : Sheet) (name : Item) (kind : TransformKind) : Result Sheet := do
  if !name.isKey then throw .unsupported
  if sheet.transforms.contains name then throw (.transformTaken (← name.plainText))
  return { sheet with transforms := sheet.transforms.put name kind }

/-! ## Application -/

/-- What comes out when one item is applied to another. A transform asks its operand
for a value and a text; a converter starts from a magnitude, or from the magnitude of
a quantity, and gives a text; an attribute access takes a symbol. -/
def appliedWithin (sheet : Sheet) : Nat → Item → Item → Result Item
  | 0, _, _ => .error .tooDeep
  | limit + 1, callee, operand =>
      match callee with
      | .transform value => do
          let source := sheet.part "value" operand
          return .intermediate (← value.content.applyTo source operand.plainText)
      | .converter value => do
          let magnitude := match operand with
            | .quantity quantity => quantity.content.value
            | other => other
          let start := Item.intermediate (.ofValue magnitude)
          let final ← value.content.run (sheet.appliedWithin limit) start
          return .text (← final.plainText)
      | .attributes index => sheet.getFrom operand (sheet.behind index)
      | _ => .error .unsupported

def applied (sheet : Sheet) (callee operand : Item) : Result Item :=
  sheet.appliedWithin Item.nestingLimit callee operand

def appliedTo (sheet : Sheet) (callee : Item) : List Item → Result Item
  | [operand] => sheet.applied callee operand
  | _ => .error .unsupported

end Sheet
end Metrology
