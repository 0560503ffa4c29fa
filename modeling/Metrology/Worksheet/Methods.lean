import Metrology.Worksheet.Displays
import Metrology.Worksheet.Powers

/-!
What can be asked of an item by name with operands, where nothing changes. A kind
that cannot be asked for something has `noSuchPart`; too many or too few operands
are `unsupported`.
-/

namespace Metrology.Sheet

/-! ## Ratios and dimensions -/

def ratioMethod (sheet : Sheet) (receiver : Item) : String → List Item → Result Item
  | "times", [other] => receiver.askTimes (sheet.ratioOperand other)
  | "divide", [other] => receiver.askDivide (sheet.ratioOperand other)
  | "pow", [exponent] => do receiver.askPower (← exponent.looseExponent)
  | "equals", [other] => do return .flag (← receiver.askEquals other)
  | _, _ => .error .unsupported

/-- A factor that is to have a representation, from which a ratio can be made. -/
def representedFactor (sheet : Sheet) (item : Item) : Result Item :=
  match item with
  | .unit _ => .ok item
  | .dimension _ => .ok item
  | item => do
      return .dimension ⟨← (sheet.ratioOperand (← sheet.part "representation" item)).toRatio⟩

/-- An item to compare with that is to have a representation, which must be a ratio. -/
def representedOther (sheet : Sheet) (item : Item) : Result Item :=
  match item with
  | .unit _ => .ok item
  | .dimension _ => .ok item
  | item => do
      match ← sheet.part "representation" item with
      | .ratio value => return .dimension ⟨value⟩
      | _ => throw .noSuchPart

def dimensionMethod (sheet : Sheet) (receiver : Item) : String → List Item → Result Item
  | "times", [other] => do receiver.askTimes (← sheet.representedFactor other)
  | "divide", [other] => do receiver.askDivide (← sheet.representedFactor other)
  | "pow", [exponent] => do receiver.askPower (← exponent.looseExponent)
  | "equals", [other] => do
      return .flag (← receiver.askEquals (← sheet.representedOther other))
  | _, _ => .error .unsupported

/-! ## Units -/

/-- A new symbol, from a ratio of its own terms. -/
def newSymbol (sheet : Sheet) (item : Item) : Result (Ratio Item) := do
  Item.ratioOf (← sheet.terms item) []

/-- A derived unit under the symbol it is to have; without one the algebra's stays. -/
def symbolized (sheet : Sheet) (derived : ItemUnit) : Item → Result Item
  | .scalar .absent => .ok (.unit derived)
  | symbol => do return .unit (derived.rename (← sheet.newSymbol symbol))

def unitMethod (sheet : Sheet) (receiver : ItemUnit) : String → List Item → Result Item
  | "times", [operand] => do return .unit (← Item.timesOperand receiver operand)
  | "times", [operand, symbol] => do
      sheet.symbolized (← Item.timesOperand receiver operand) symbol
  | "divide", [operand] => do return .unit (← Item.divideOperand receiver operand)
  | "divide", [operand, symbol] => do
      sheet.symbolized (← Item.divideOperand receiver operand) symbol
  | "add", [amount, symbol] => do
      let shifted ← receiver.shift (← amount.unitScale)
      return .unit (shifted.rename (← sheet.newSymbol symbol))
  | "pow", [exponent] => do return .unit (← Item.unitPower receiver exponent)
  | "equals", [other] => do
      return .flag (← (Item.unit receiver).askEquals (← sheet.representedOther other))
  | "to_base", [value] => receiver.toBase value
  | "from_base", [value] => receiver.fromBase value
  | _, _ => .error .unsupported

/-! ## Quantities -/

/-- Another quantity as an operand. -/
def otherQuantity : Item → Result ItemQuantity
  | .quantity value => .ok value.content
  | _ => .error .noSuchPart

/-- Convert a quantity into a unit; in its own unit it is the same quantity. Anything
else may have a dimension, but only a unit has all that a conversion needs. -/
def convertInto (sheet : Sheet) (receiver : Marked ItemQuantity) (target : Item) : Result Item :=
  match target with
  | .unit target => do
      let converted ← receiver.content.convert target
      return if receiver.content.unit.equals target then .quantity receiver
        else .ofQuantity converted
  | target => do
      let unit := receiver.content.unit
      if ← Dimensional.equals unit.dimension (← sheet.part "dimension" target) then
        throw .noSuchPart
      else throw (.incompatible unit.symbol (← target.plainText))

/-- Convert a quantity into a unit, or into what a unit expression asks for. -/
def convertTo (sheet : Sheet) (receiver : Marked ItemQuantity) : Item → Result Item
  | .scalar (.text expression) => do
      sheet.convertInto receiver (← sheet.parseDefault (.text expression))
  | target => sheet.convertInto receiver target

/-- A magnitude cut off after decimal places; without places it stays. -/
def cutOff (places : Item) (value : Item) : Result Item :=
  match places with
  | .scalar .absent => .ok value
  | places => do Quantity.truncate (← places.toNumber) value

/-- A key of the dimension and the rounded magnitude. -/
def keyOf (receiver : ItemQuantity) (places : Item) : Result Item := do
  let round (value : Item) : Result Number := do
    match places with
    | .scalar .absent => value.round none
    | places => value.round (some (← places.toInt))
  let (measured, rounded) ← receiver.asKeyBy round
  return .tuple [.text measured, .number rounded]

def quantityMethod (sheet : Sheet) (receiver : Marked ItemQuantity) :
    String → List Item → Result Item
  | "to", [target] => sheet.convertTo receiver target
  | "as_", [target] => sheet.convertTo receiver target
  | "add", [other] => do return .ofQuantity (← receiver.content.add (← otherQuantity other))
  | "subtract", [other] => do
      return .ofQuantity (← receiver.content.subtract (← otherQuantity other))
  | "times", [operand] => (Item.quantity receiver).askTimes operand
  | "divide", [operand] => (Item.quantity receiver).askDivide operand
  | "equals", [other] => do return .flag (← receiver.content.equals (← otherQuantity other))
  | "equals", [other, places] => do
      return .flag (← receiver.content.equalsBy (cutOff places) (← otherQuantity other))
  | "to_base", [] => receiver.content.toBase
  | "get_value", [] => .ok receiver.content.value
  | "get_value", [places] => cutOff places receiver.content.value
  | "as_key", [] => keyOf receiver.content (.int Quantity.keyPlaces)
  | "as_key", [places] => keyOf receiver.content places
  | _, _ => .error .unsupported

/-! ## Conversions and displays -/

def stepMethod (receiver : Step ItemAction) : String → List Item → Result Item
  | "apply", [value] => receiver.apply value
  | "unapply", [value] => receiver.unapply value
  | _, _ => .error .unsupported

/-- The steps of a builder, if it has nothing but steps. -/
def builder (sheet : Sheet) (index : Nat) : Result (Pipeline ItemAction) :=
  (sheet.builders.getD index none).elim (.error .noSuchPart) .ok

def pipelineMethod (sheet : Sheet) (receiver : Pipeline ItemAction) :
    String → List Item → Result Item
  | "apply", [value] => receiver.apply value
  | "unapply", [value] => receiver.unapply value
  | "push", [.step other] => .ok (.ofPipeline (receiver.push other))
  | "push", [_] => .error .noSuchPart
  | "concat", [.pipeline other] => .ok (.ofPipeline (receiver.concat other.content))
  | "concat", [.builder index] => do
      return .ofPipeline (receiver.concat (← sheet.builder index))
  | "concat", [_] => .error .noSuchPart
  | _, _ => .error .unsupported

def converterMethod (sheet : Sheet) (receiver : Marked (Converter Item)) :
    String → List Item → Result Item
  | "apply", [value] => sheet.applied (.converter receiver) value
  | "then", [other] => .ok (.converter (.fresh (receiver.content.push other)))
  | "concat", [.converter other] =>
      .ok (.converter (.fresh (receiver.content.concat other.content)))
  | "concat", [_] => .error .noSuchPart
  | _, _ => .error .unsupported

/-! ## Registries and mappings -/

def registryMethod (sheet : Sheet) (index : Nat) : String → List Item → Result Item
  | "lookup", [symbol] => do
      let _ := sheet.symbols
      return (← (sheet.registry index).lookup symbol).getD .absent
  | "get", [symbol] => sheet.get index symbol
  | "parse", [expression] => sheet.parse index expression
  | _, _ => .error .unsupported

def mappingMethod (entries : List (Item × Item)) : String → List Item → Result Item
  | "get", key :: otherwise =>
      if otherwise.length ≤ 1 ∧ key.isKey then
        .ok ((Table.get? entries key).getD (otherwise.headD .absent))
      else .error .unsupported
  | _, _ => .error .unsupported

/-! ## By name -/

/-- The names of all methods, those that change something included. -/
def methodNames : List String :=
  ["times", "divide", "pow", "equals", "add", "subtract", "to", "as_", "to_base", "from_base",
   "get_value", "as_key", "apply", "unapply", "push", "concat", "build", "then", "lookup", "get",
   "parse", "register", "alias", "restore", "all", "user_units", "namespace"]

/-- The methods of each kind. -/
def methods : Item → List String
  | .ratio _ => ["times", "divide", "pow", "equals"]
  | .dimension _ => ["times", "divide", "pow", "equals"]
  | .unit _ => ["times", "divide", "pow", "equals", "add", "to_base", "from_base"]
  | .quantity _ =>
      ["times", "divide", "equals", "add", "subtract", "to", "as_", "to_base", "get_value", "as_key"]
  | .step _ => ["apply", "unapply"]
  | .pipeline _ => ["apply", "unapply", "push", "concat"]
  | .builder _ => ["push", "concat", "build"]
  | .converter _ => ["apply", "then", "concat"]
  | .registry _ =>
      ["lookup", "get", "parse", "register", "alias", "restore", "all", "user_units", "namespace"]
  | .mapping _ => ["get"]
  | _ => []

/-- The result of a method of the kind of an item. -/
def ownMethod (sheet : Sheet) (receiver : Item) (name : String) (operands : List Item) :
    Result Item :=
  if !(methods receiver).contains name then .error .noSuchPart
  else
    match receiver with
    | .ratio _ => sheet.ratioMethod receiver name operands
    | .dimension _ => sheet.dimensionMethod receiver name operands
    | .unit value => sheet.unitMethod value name operands
    | .quantity value => sheet.quantityMethod value name operands
    | .step value => stepMethod value name operands
    | .pipeline value => sheet.pipelineMethod value.content name operands
    | .converter value => sheet.converterMethod value name operands
    | .registry index => sheet.registryMethod index name operands
    | .mapping entries => mappingMethod entries name operands
    | _ => .error .unsupported

/-- What is asked of an item by name with operands: what was assigned under the name or
is found there by attribute access is applied to them, and anything else is a method. -/
def method (sheet : Sheet) (receiver : Item) (name : String) (operands : List Item) :
    Result Item :=
  match sheet.assigned? receiver name, receiver with
  | some value, _ => sheet.appliedTo value operands
  | none, .attributes _ => do sheet.appliedTo (← sheet.part name receiver) operands
  | none, receiver => sheet.ownMethod receiver name operands

/-- What is asked of an item by name: a method, or a part without operands. -/
def request (sheet : Sheet) (receiver : Item) (name : String) (operands : List Item) :
    Result Item :=
  if methodNames.contains name then sheet.method receiver name operands
  else if Item.partNames.contains name && operands.isEmpty then sheet.part name receiver
  else .error .unsupported

end Metrology.Sheet
