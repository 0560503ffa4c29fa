import Metrology.Worksheet.Sheet

/-!
Assigning attributes. Builders, registries, attribute accesses and transforms take
attributes of any name. Some things also have slots for what they consist of; what is
put into the slot of a thing is found wherever the thing is held. Everything else
refuses.
-/

namespace Metrology

namespace Item

/-! ## Exchange -/

mutual

/-- An item with `new` in place of the thing `old`, wherever it is held. -/
def exchange (old new : Item) : Item → Item
  | list items => list (exchangeAll old new items)
  | tuple items => tuple (exchangeAll old new items)
  | mapping entries => mapping (exchangeEntries old new entries)
  | quantity ⟨mark, ⟨value, measuredIn⟩⟩ =>
      if quantity ⟨mark, ⟨value, measuredIn⟩⟩ == old then new
      else quantity ⟨mark, ⟨exchange old new value, measuredIn⟩⟩
  | pipeline value => if pipeline value == old then new else pipeline value
  | converter ⟨mark, ⟨transforms⟩⟩ =>
      if converter ⟨mark, ⟨transforms⟩⟩ == old then new
      else converter ⟨mark, ⟨exchangeAll old new transforms⟩⟩
  | intermediate ⟨value, fixed⟩ => intermediate ⟨exchange old new value, fixed⟩
  | method receiver name => method (exchange old new receiver) name
  | other => other

def exchangeAll (old new : Item) : List Item → List Item
  | [] => []
  | item :: rest => exchange old new item :: exchangeAll old new rest

def exchangeEntries (old new : Item) : List (Item × Item) → List (Item × Item)
  | [] => []
  | (key, value) :: rest => (key, exchange old new value) :: exchangeEntries old new rest

end

/-! ## Refusal -/

/-- Whether attributes of any name can be assigned to an item. -/
def takesAttributes : Item → Bool
  | builder _ => true
  | registry _ => true
  | attributes _ => true
  | transform _ => true
  | _ => false

def fixedFields : Item → List String
  | unit _ => ["dimension", "representation", "transformation", "is_base"]
  | step _ => ["forward", "backward", "label"]
  | _ => []

/-- Why an attribute of an item cannot be assigned. -/
def assignmentFault (name : String) : Item → Fault
  | ratio _ => .immutable .ratio
  | dimension _ => .immutable .dimension
  | unit value => if (unit value).fixedFields.contains name then .fixedField else .unsupported
  | step value => if (step value).fixedFields.contains name then .fixedField else .unsupported
  | _ => .noSuchPart

/-- The steps that a row consists of, if there is nothing else in it. -/
def stepsOf? (item : Item) : Option (Pipeline ItemAction) := do
  let items ← match item with
    | list items => some items
    | item => item.tuple?
  let steps ← items.mapM fun member => match member with
    | step value => some value
    | _ => none
  return ⟨steps⟩

def withSlot? : Item → String → Item → Option Item
  | quantity thing, "_value", value =>
      some (quantity { thing with content := { thing.content with value } })
  | quantity thing, "_unit", unit measuredIn =>
      some (quantity { thing with content := { thing.content with unit := measuredIn } })
  | converter thing, "_transformations", tuple transforms =>
      some (converter { thing with content := ⟨transforms⟩ })
  | converter thing, "_transformations", list transforms =>
      some (converter { thing with content := ⟨transforms⟩ })
  | pipeline thing, "_ops", row =>
      row.stepsOf?.map fun content => pipeline { thing with content }
  | _, _, _ => none

end Item

namespace Sheet

/-! ## Attributes -/

def assigned? (sheet : Sheet) (item : Item) (name : String) : Option Item := do
  (← Table.get? sheet.own item).get? name

def assignOwn (sheet : Sheet) (item : Item) (name : String) (value : Item) : Sheet :=
  let attributes := (Table.get? sheet.own item).getD []
  { sheet with own := Table.put item (attributes.put name value) sheet.own }

/-! ## Slots -/

def mapValues {κ : Type} (change : Item → Item) (table : Table κ Item) : Table κ Item :=
  table.map fun (key, value) => (key, change value)

/-- Put one thing in place of another, wherever the sheet holds it. -/
def exchange (sheet : Sheet) (old new : Item) : Sheet :=
  let change := Item.exchange old new
  { sheet with
    registers := mapValues change sheet.registers
    registries := sheet.registries.map fun registry =>
      ⟨mapValues change registry.bound, mapValues change registry.user⟩
    own := sheet.own.map fun (item, attributes) => (item, mapValues change attributes) }

def setBuilder (sheet : Sheet) (index : Nat) (pipeline? : Option (Pipeline ItemAction)) : Sheet :=
  { sheet with builders := sheet.builders.set index pipeline? }

def assignKept? (sheet : Sheet) : Item → String → Item → Option Sheet
  | .builder index, "_ops", row => some (sheet.setBuilder index row.stepsOf?)
  | .attributes index, "_reg", other =>
      some { sheet with accesses := sheet.accesses.set index other }
  | .registry index, "_units", .mapping entries =>
      some (sheet.setRegistry index { sheet.registry index with bound := entries })
  | .registry index, "_user", .mapping entries =>
      some (sheet.setRegistry index { sheet.registry index with user := entries })
  | _, _, _ => none

/-! ## Assignment -/

/-- Assign an attribute. Nothing can be made a thing of another kind. -/
def assign (sheet : Sheet) (item : Item) (name : String) (value : Item) : Result Sheet :=
  match item.withSlot? name value, sheet.assignKept? item name value with
  | some new, _ => .ok (sheet.exchange item new)
  | none, some sheet => .ok sheet
  | none, none =>
      match item with
      | .ratio _ => .error (item.assignmentFault name)
      | .dimension _ => .error (item.assignmentFault name)
      | item =>
          if name == "__class__" then .error .unsupported
          else if item.takesAttributes then .ok (sheet.assignOwn item name value)
          else .error (item.assignmentFault name)

end Sheet
end Metrology
