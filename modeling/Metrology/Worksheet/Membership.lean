import Metrology.Worksheet.Sheet

/-!
What items consist of, and whether and where one item is found in another.
-/

namespace Metrology.Sheet

/-- A registry consists of its symbols. -/
def members (sheet : Sheet) : Item → Result (List Item)
  | .registry index => .ok (sheet.registry index).symbols
  | item => item.members

/-- The terms of a side of a ratio, where a registry stands for its symbols. -/
def terms (sheet : Sheet) : Item → Result (List (Term Item))
  | .registry index => (Item.list (sheet.registry index).symbols).terms
  | item => item.terms

def ratioOperand (sheet : Sheet) : Item → Item
  | .registry index => .list (sheet.registry index).symbols
  | item => item

/-! ## Search -/

def place? (item : Item) : List Item → Result (Option Nat)
  | [] => .ok none
  | other :: rest => do
      if ← other.memberEquals item then return some 0
      else return (← place? item rest).map (· + 1)

def textPlace? (part : List Char) : List Char → Option Nat
  | [] => if part.isEmpty then some 0 else none
  | character :: rest =>
      if part.isPrefixOf (character :: rest) then some 0 else (textPlace? part rest).map (· + 1)

example : textPlace? ['b', 'c'] ['a', 'b', 'c'] = some 1 := by decide

def isSymbol (sheet : Sheet) (index : Nat) : Item → Bool
  | .scalar (.text symbol) =>
      let _ := sheet.symbols
      (sheet.registry index).contains symbol
  | _ => false

/-- For containers that are no attribute access. -/
def isHeldBy (sheet : Sheet) (item container : Item) : Result Bool :=
  match container with
  | .registry index => .ok (sheet.isSymbol index item)
  | .scalar (.text whole) => do
      return (textPlace? (← item.toText).toList whole.toList).isSome
  | .mapping entries =>
      if item.isKey then .ok (Table.contains entries item) else .error .unsupported
  | container => do return (← place? item (← sheet.members container)).isSome

/-- An attribute access has what stands behind it. -/
def isIn (sheet : Sheet) (item : Item) : Item → Result Bool
  | .attributes index => sheet.isHeldBy item (sheet.behind index)
  | container => sheet.isHeldBy item container

def indexIn (item container : Item) : Result Nat := do
  let found? ← match container with
    | .scalar (.text whole) => do pure (textPlace? (← item.toText).toList whole.toList)
    | .list items => place? item items
    | container =>
        match container.tuple? with
        | some items => place? item items
        | none => throw .noSuchPart
  found?.elim (throw .notFound) pure

end Metrology.Sheet
