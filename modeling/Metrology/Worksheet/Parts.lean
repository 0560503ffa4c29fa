import Metrology.Worksheet.Assignment
import Metrology.Worksheet.Expressions

/-!
The parts of items by name. Some things take attributes of any name; what was
assigned to them is found before anything else. An attribute access has a part for
every symbol of its registry. A kind that lacks the part asked for has `noSuchPart`.
-/

namespace Metrology

namespace Item

def fractionItems {α : Type} (item : α → Item) (fraction : Fraction α) : Item :=
  tuple [tuple (fraction.above.map item), tuple (fraction.below.map item)]

/-- The conversion of a unit. All base units share one. -/
def transformation (value : ItemUnit) : Item :=
  if value.isBase then identityPipeline else ofPipeline (conversionSteps value.conversion)

def slotName : String → String
  | "_value" => "value"
  | "_unit" => "unit"
  | "_ops" => "operations"
  | "_transformations" => "transformations"
  | name => name

/-- A part that belongs to the kind of an item. An integer is its own numerator over
one. -/
def partOf : String → Item → Result Item
  | "dimension", unit value => .ok value.dimension
  | "dimension", quantity value => .ok value.content.unit.dimension
  | "representation", unit value => .ok (ratio value.representation)
  | "representation", dimension value => .ok (ratio value.representation)
  | "transformation", unit value => .ok (transformation value)
  | "is_base", unit value => .ok (flag value.isBase)
  | "symbol", unit value => .ok (text value.symbol)
  | "unit", quantity value => .ok (unit value.content.unit)
  | "value", quantity value => .ok value.content.value
  | "value", intermediate value => .ok value.value
  | "text", intermediate value => .ok (textOrAbsent value.text?)
  | "numerator", ratio value => .ok (tuple (value.numerator.map ofTerm))
  | "denominator", ratio value => .ok (tuple (value.denominator.map ofTerm))
  | "literal", ratio value => .ok (fractionItems id value.literal)
  | "symbolic", ratio value => .ok (fractionItems text value.symbolic)
  | "is_one", ratio value => .ok (flag value.isOne)
  | "is_dimensionless", dimension value => .ok (flag value.isDimensionless)
  | "inverse", step value => .ok (step value.inverse)
  | "inverse", pipeline value => .ok (ofPipeline value.content.inverse)
  | "is_identity", pipeline value => .ok (flag value.content.isIdentity)
  | "operations", pipeline value => .ok (tuple (value.content.steps.map step))
  | "transformations", converter value => .ok (tuple value.content.transforms)
  | "label", step value => .ok (text value.label)
  | "numerator", scalar value => (value.toInt?.map int).elim (.error .noSuchPart) .ok
  | "denominator", scalar value => (value.toInt?.map fun _ => int 1).elim (.error .noSuchPart) .ok
  | _, _ => .error .noSuchPart

/-- The names of all parts that can be asked for. -/
def partNames : List String :=
  ["representation", "transformation", "is_base", "symbol", "value", "text", "numerator",
   "denominator", "literal", "symbolic", "is_one", "is_dimensionless", "inverse", "is_identity",
   "label"]

end Item

namespace Sheet

def part (sheet : Sheet) (name : String) (item : Item) : Result Item :=
  match sheet.assigned? item name, item with
  | some value, _ => .ok value
  | none, .attributes index =>
      match sheet.attributeOf index name with
      | .error (.noAttribute _) => .error .noSuchPart
      | found => found
  | none, item => item.partOf (Item.slotName name)

end Sheet
end Metrology
