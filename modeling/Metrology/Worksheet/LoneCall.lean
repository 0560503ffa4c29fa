import Metrology.Worksheet

/-!
Calls that are made alone, without the steps of a worksheet around them: factoring,
cancelling and writing of items.
-/

namespace Metrology

inductive LoneCall where
  | factors
  | normalize
  | compactText
  | product
  | netCounts
  | cancel
  deriving DecidableEq, Repr

namespace LoneCall

/-- Two rows of items as a fraction; only keys can be counted. -/
def fractionOf (above below : List Item) : Result (Fraction Item) :=
  if above.all Item.isKey && below.all Item.isKey then .ok ⟨above, below⟩ else .error .unsupported

/-- The result of a call. Products and counts take rows of items. -/
def result : LoneCall → List Item → Result Item
  | factors, [item] => .ok (.list item.factors)
  | normalize, [item] => .ok item.normalize
  | compactText, [item] => do return .text (← item.compactText)
  | product, [.list items] => Metrology.product Item.normalize items
  | netCounts, [.list above, .list below] => do
      let counts := (← fractionOf above below).netCounts
      return .list (counts.map fun (item, count) => .tuple [item, .int count])
  | cancel, [.list above, .list below] => do
      let cancelled := (← fractionOf above below).cancel
      return .tuple [.tuple cancelled.above, .tuple cancelled.below]
  | _, _ => .error .unsupported

def run (call : LoneCall) (operands : List Operand) : Result View := do
  let (sheet, items) := Sheet.initial.marking (← Operand.resolveAll .initial operands)
  View.ofItem sheet (← call.result items)

end LoneCall
end Metrology
