import Metrology.Worksheet.Attributes

/-!
The calls of a worksheet by name: constructors, functions and the few calls that
change a builder, a registry, an attribute or the named transforms. A call gives an
item and the sheet afterwards; a call that fails leaves the sheet as it was.
-/

namespace Metrology.Sheet

/-! ## Constructors -/

/-- A dimension from one of its own, from a ratio, or from terms. -/
def makeDimension (sheet : Sheet) : Item → Result (Dimension Item)
  | .dimension value => .ok value
  | .ratio value => .ok ⟨value⟩
  | item => do return ⟨← Item.ratioOf (← sheet.terms item) []⟩

/-- The representation of a new base unit. -/
def makeRepresentation (sheet : Sheet) : Item → Result (Ratio Item)
  | .ratio value => .ok value
  | item => sheet.newSymbol item

def makeRatio (sheet : Sheet) (above below : Item) : Result Item := do
  let above ← sheet.terms above
  return .ratio (← Item.ratioOf above (← sheet.terms below))

def makeQuantity (value : Item) : Item → Result Item
  | .unit unit => .ok (.ofQuantity ⟨value, unit⟩)
  | other => .error (.unitKind other.kind)

/-- A step that one of the four operations makes from a constant. -/
def makeStep (make : Item → String → Step (Action Item)) (constant : Item) : Result Item := do
  return .step ((make constant (← constant.compactText)).map .fresh)

def makePipeline (items : List Item) : Result Item := do
  let steps ← items.mapM fun item => match item with
    | .step value => .ok value
    | _ => .error .noSuchPart
  return .ofPipeline ⟨steps⟩

def makeConverter (transforms : List Item) : Item := .converter (.fresh ⟨transforms⟩)

def makeIntermediate (value : Item) : Item → Result Item
  | .scalar .absent => .ok (.intermediate (.ofValue value))
  | fixed => do return .intermediate ⟨value, some (← fixed.toText)⟩

/-- The constructors. -/
def constructor? (sheet : Sheet) (name : String) (operands : List Item) :
    Option (Result Item) :=
  match name, operands with
  | "id", [item] => some (.ok item)
  | "rational", [] => some (.ok (.ratio .one))
  | "rational", [above] => some (sheet.makeRatio above (.int 1))
  | "rational", [above, below] => some (sheet.makeRatio above below)
  | "rational.one", [] => some (.ok (.ratio .one))
  | "dimension", [] => some (.ok (.dimension ⟨.one⟩))
  | "dimension", [item] => some do return .dimension (← sheet.makeDimension item)
  | "unit", [dimension, representation] => some do
      return .unit (.base dimension (← sheet.makeRepresentation representation))
  | "quantity", [value, unit] => some (makeQuantity value unit)
  | "op.add", [constant] => some (makeStep Step.add constant)
  | "op.subtract", [constant] => some (makeStep Step.subtract constant)
  | "op.multiply", [constant] => some (makeStep Step.multiply constant)
  | "op.divide", [constant] => some (makeStep Step.divide constant)
  | "op.custom", [_, label] => some do
      return .step ((Step.negate (← label.toText)).map .fresh)
  | "pipeline", items => some (makePipeline items)
  | "pipeline.identity", [] => some (.ok Item.identityPipeline)
  | "transform", name :: operands => some (sheet.namedTransform name operands)
  | "converter", [] => some (.ok (makeConverter []))
  | "converter", [transforms] => some do return makeConverter (← sheet.members transforms)
  | "intermediate", [value] => some (makeIntermediate value .absent)
  | "intermediate", [value, fixed] => some (makeIntermediate value fixed)
  | _, _ => none

/-! ## Functions -/

/-- The length of an item that has one. -/
def length (sheet : Sheet) (item : Item) : Result Nat := do return (← sheet.members item).length

/-- A unit expression in a registry, or in the default one. -/
def parseUnit (sheet : Sheet) (expression : Item) : Item → Result Item
  | .scalar .absent => sheet.parseDefault expression
  | .registry index => sheet.parse index expression
  | other => do
      let _ ← sheet.planOf expression
      let _ ← sheet.part "lookup" other
      throw .unsupported

/-- A table of a registry with the texts of what is bound. -/
def listing (table : Table Item Item) : Result Item := do
  return .mapping (← table.mapM fun (symbol, unit) => do return (symbol, .text (← unit.plainText)))

/-- The functions. -/
def function? (sheet : Sheet) (name : String) (operands : List Item) : Option (Result Item) :=
  match name, operands with
  | "neg", [item] => some item.negated
  | "str", [item] => some do return .text (← item.plainText)
  | "repr", [item] => some do return .text (← item.shown)
  | "len", [item] => some do return .int (← sheet.length item)
  | "list", [item] => some do return .list (← sheet.members item)
  | "in", [item, container] => some do return .flag (← sheet.isIn item container)
  | "index", [container, item] => some do return .int (← indexIn item container)
  | "pow3", [base, exponent, modulus] => some (base.raisedModulo exponent modulus)
  | "hashable", [item] => some (if item.isKey then .ok (.flag true) else .error .unsupported)
  | "call", [callee, operand] => some (sheet.applied callee operand)
  | "parse_unit", [expression] => some (sheet.parseDefault expression)
  | "parse_unit", [expression, registry] => some (sheet.parseUnit expression registry)
  | "symbols", [item] => some do return .list (← sheet.members item)
  | "all", [.registry index] => some (listing (sheet.registry index).bound)
  | "user_units", [.registry index] => some (listing (sheet.registry index).user)
  | "ns.call", [callee, operand] => some (sheet.applied callee operand)
  | "ns.getattr", [item, .scalar (.text name)] => some (sheet.getAttribute item name)
  | "ns.dir", [.attributes index, container] => some do
      return .texts (← sheet.attributeNames index container)
  | "registry.default", [] => some (.ok (.registry 0))
  | "transformations", [] => some (.ok (.list sheet.transforms.keys))
  | "catalog.si", [] => some (.ok (.texts (Catalogue.standard.international.map (·.1))))
  | "catalog.non_si", [] => some (.ok (.texts (Catalogue.standard.customary.map (·.1))))
  | "catalog.exports", [] => some (.ok (.texts Catalogue.standard.publicNames))
  | _, _ => none

/-! ## Operators -/

/-- The comparison that an operator stands for. -/
def comparison? : String → Option Comparison
  | "<" => some .less
  | "<=" => some .atMost
  | ">" => some .greater
  | ">=" => some .atLeast
  | _ => none

/-- The result of a binary operator. -/
def operator? (symbol : String) (left right : Item) : Option (Result Item) :=
  match symbol with
  | "+" => some (left.plus right)
  | "-" => some (left.minus right)
  | "*" => some (left.multiplied right)
  | "/" => some (left.divided right)
  | "**" => some (left.raised right)
  | "==" => some (do return .flag (← left.equals right))
  | "!=" => some (do return .flag !(← left.equals right))
  | symbol => (comparison? symbol).map fun comparison => do
      return .flag (← left.compared comparison right)

/-! ## Changes -/

def addBuilder (sheet : Sheet) : Sheet × Item :=
  ({ sheet with builders := sheet.builders ++ [some .identity] }, .builder sheet.builders.length)

/-- What a builder has after something was pushed. -/
def pushed (pipeline? : Option (Pipeline ItemAction)) : Item → Option (Pipeline ItemAction)
  | .step step => pipeline?.map (·.push step)
  | _ => none

/-- What a call to a builder does, which changes it. -/
def changeBuilder (sheet : Sheet) (index : Nat) : String → List Item → Result (Sheet × Item)
  | "build", [] => do return (sheet, .ofPipeline (← sheet.builder index))
  | "push", [item] =>
      .ok (sheet.setBuilder index (pushed (sheet.builders.getD index none) item), .builder index)
  | "concat", [.pipeline other] =>
      .ok (sheet.setBuilder index
        ((sheet.builders.getD index none).map (·.concat other.content)), .builder index)
  | "concat", [_] => .error .noSuchPart
  | _, _ => .error .unsupported

/-- What a call to a registry does that changes it or makes something of it. -/
def changeRegistry (sheet : Sheet) (index : Nat) : String → List Item → Result (Sheet × Item)
  | "register", [item] => do
      let _ := sheet.symbols
      let registry ← (sheet.registry index).register item
      return (sheet.setRegistry index registry, .registry index)
  | "alias", [existing, new] => do
      let _ := sheet.symbols
      let registry ← (sheet.registry index).addAlias existing new
      return (sheet.setRegistry index registry, .registry index)
  | "restore", [] => do
      let _ := sheet.symbols
      return (sheet.setRegistry index ((sheet.registry index).restore Item.ofUnit), .registry index)
  | "namespace", [] => .ok (sheet.addAccess (.registry index))
  | _, _ => .error .unsupported

/-- The calls that change the sheet. -/
def change? (sheet : Sheet) (name : String) (operands : List Item) :
    Option (Result (Sheet × Item)) :=
  match name, operands with
  | "builder", [] => some (.ok sheet.addBuilder)
  | "registry", [] => some (.ok (sheet.addRegistry catalogue))
  | "registry", [populate] =>
      some (.ok (sheet.addRegistry (if sheet.isTrue populate then catalogue else .empty)))
  | "setattr", [item, name, value] => some do
      return (← sheet.assign item (← name.toText) value, .absent)
  | "register_shout", [name] => some do
      let sheet ← sheet.addTransform name .shout
      return (sheet, .list sheet.transforms.keys)
  | name, .builder index :: operands =>
      if ["build", "push", "concat"].contains name then
        some (sheet.changeBuilder index name operands)
      else none
  | name, .registry index :: operands =>
      if ["register", "alias", "restore", "namespace"].contains name then
        some (sheet.changeRegistry index name operands)
      else none
  | _, _ => none

/-! ## By name -/

/-- The result of a call: an item, and the sheet afterwards. -/
def callNamed (sheet : Sheet) (name : String) (operands : List Item) : Result (Sheet × Item) :=
  let unchanged (result : Result Item) : Result (Sheet × Item) := do return (sheet, ← result)
  match sheet.change? name operands with
  | some result => result
  | none =>
      match sheet.constructor? name operands with
      | some result => unchanged result
      | none =>
          match sheet.function? name operands with
          | some result => unchanged result
          | none =>
              match operands with
              | [left, right] =>
                  match operator? name left right with
                  | some result => unchanged result
                  | none => unchanged (sheet.request left name [right])
              | receiver :: operands => unchanged (sheet.request receiver name operands)
              | [] => .error .unsupported

/-! ## Methods and kinds as things of their own -/

/-- The constructor of a kind. -/
def constructorName? : String → Option String
  | "SymbolicRational" => some "rational"
  | "Dimension" => some "dimension"
  | "ConversionPipeline" => some "pipeline"
  | "UnitsRegistry" => some "registry"
  | "UnitNamespace" => some "namespace"
  | "Intermediate" => some "intermediate"
  | "Converter" => some "converter"
  | _ => none

/-- What comes out when a method that was kept is called with an operand. -/
def callMethod (sheet : Sheet) (receiver : Item) (name : String) (operand : Item) :
    Result (Sheet × Item) :=
  match receiver, name with
  | .registry _, "register" => do
      return ((← sheet.callNamed name [receiver, operand]).1, .absent)
  | .attributes _, "__call__" => do return (sheet, ← sheet.applied receiver operand)
  | .attributes _, "__contains__" => do return (sheet, .flag (← sheet.isIn operand receiver))
  | .attributes index, "__getattr__" => do
      match sheet.attributeOf index (← operand.toText) with
      | .error (.noAttribute _) => throw .noSuchPart
      | found => return (sheet, ← found)
  | receiver, name =>
      if (methods receiver).contains name then sheet.callNamed name [receiver, operand]
      else .error .unsupported

/-- The result of a call by name; what is called may be an operand itself. -/
def call (sheet : Sheet) (name : String) (operands : List Item) : Result (Sheet × Item) :=
  match ["call", "ns.call"].contains name, operands with
  | true, [.method receiver asked, operand] => sheet.callMethod receiver asked operand
  | true, [.kindOf _ kind, operand] =>
      match constructorName? kind with
      | some constructor => sheet.callNamed constructor [operand]
      | none => .error .unsupported
  | _, operands => sheet.callNamed name operands

end Metrology.Sheet
