import Metrology.Worksheet.Operations

/-!
The state of a worksheet while it runs: named registers, the builders, registries
and attribute accesses that its steps make and change, and the named transforms.
-/

namespace Metrology

structure Sheet where
  registers : Table String Item
  /-- A builder that was given something that is no step has nothing to show any more. -/
  builders : List (Option (Pipeline ItemAction))
  /-- The first registry is the default one. -/
  registries : List (Registry Item Item)
  /-- What stands behind each attribute access: a registry, unless it was replaced. -/
  accesses : List Item
  /-- Attributes that were assigned to things that take any. -/
  own : List (Item × Table String Item)
  transforms : Table Item TransformKind
  lastMark : Nat

/-! ## Marks -/

namespace Item

/-- The mark of the pipeline without steps that all base units share. -/
def identityMark : Nat := 1

def identityPipeline : Item := .pipeline ⟨identityMark, .identity⟩

def nextMark : StateM Nat Nat := do
  modify (· + 1)
  get

def markedThing {α : Type} (thing : Marked α) : StateM Nat (Marked α) := do
  if thing.mark = 0 then return { thing with mark := ← nextMark } else return thing

mutual

/-- An item with marks for whatever in it has just been made. Numbers that are no
numbers are told apart by marks too. -/
def withMarks : Item → StateM Nat Item
  | scalar (.number (.float (.nan 0))) => do return number (.float (.nan (← nextMark)))
  | list items => do return list (← withMarksAll items)
  | tuple items => do return tuple (← withMarksAll items)
  | quantity ⟨mark, ⟨value, measuredIn⟩⟩ => do
      return quantity (← markedThing ⟨mark, ⟨← withMarks value, measuredIn⟩⟩)
  | intermediate ⟨value, fixed⟩ => do return intermediate ⟨← withMarks value, fixed⟩
  | step ⟨forward, backward, label⟩ => do
      return step ⟨← markedThing forward, ← markedThing backward, label⟩
  | pipeline value => do return pipeline (← markedThing value)
  | converter value => do return converter (← markedThing value)
  | transform value => do return transform (← markedThing value)
  | other => return other

def withMarksAll : List Item → StateM Nat (List Item)
  | [] => return []
  | item :: rest => do return (← withMarks item) :: (← withMarksAll rest)

end

end Item

namespace Sheet

def blank : Sheet where
  registers := []
  builders := []
  registries := []
  accesses := []
  own := []
  transforms := builtinTransforms.map fun (name, kind) => (.text name, kind)
  lastMark := Item.identityMark

def marking (sheet : Sheet) (items : List Item) : Sheet × List Item :=
  let (items, lastMark) := (Item.withMarksAll items).run sheet.lastMark
  ({ sheet with lastMark }, items)

/-! ## Registries -/

def registry (sheet : Sheet) (index : Nat) : Registry Item Item :=
  sheet.registries.getD index .empty

def setRegistry (sheet : Sheet) (index : Nat) (registry : Registry Item Item) : Sheet :=
  { sheet with registries := sheet.registries.set index registry }

def addRegistry (sheet : Sheet) (registry : Registry Item Item) : Sheet × Item :=
  ({ sheet with registries := sheet.registries ++ [registry] }, .registry sheet.registries.length)

def behind (sheet : Sheet) (index : Nat) : Item := sheet.accesses.getD index .absent

def addAccess (sheet : Sheet) (item : Item) : Sheet × Item :=
  ({ sheet with accesses := sheet.accesses ++ [item] }, .attributes sheet.accesses.length)

/-- Whether an item counts as true in a condition: what has members counts by them. -/
def isTrue (sheet : Sheet) : Item → Bool
  | .scalar value => value.isTrue
  | .list items => !items.isEmpty
  | .tuple items => !items.isEmpty
  | .mapping entries => !entries.isEmpty
  | .pipeline value => !value.content.isIdentity
  | .registry index => !(sheet.registry index).bound.isEmpty
  | _ => true

/-- An item in the form under which it is bound. A text is normalized, and an item
that counts as nothing stays as it is if it can be a key. -/
def normalized (sheet : Sheet) : Item → Result Item
  | .scalar (.text symbol) => .ok (.text (normalizeSymbol symbol))
  | item =>
      if sheet.isTrue item then .error .noSuchPart
      else if item.isKey then .ok item
      else .error .unsupported

@[reducible] def symbols (sheet : Sheet) : Symbol Item where
  ofText := .text
  normalize := sheet.normalized
  text := Item.plainText

def catalogue : Registry Item Item :=
  let _ := blank.symbols
  .ofCatalogue Item.ofUnit

/-- Every worksheet starts with the catalogue as the default registry. -/
def initial : Sheet := { blank with registries := [catalogue] }

end Sheet
end Metrology
