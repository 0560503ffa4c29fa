import Metrology.Worksheet.Calls
import Metrology.Worksheet.View

/-!
Worksheets: steps that are run in order. A step calls something by name, and may
keep the result in a register for later steps. A step that fails, in the call or
because its result cannot be shown, leaves all registers as they were, and the
worksheet goes on.
-/

namespace Metrology

inductive Operand where
  | item (value : Item)
  | integer (value : Int)
  | register (name : String)
  | catalogueUnit (name : String)
  | dimension (name : String)
  | list (operands : List Operand)

structure Instruction where
  call : String
  operands : List Operand
  register : Option String

namespace Operand

mutual

/-- An integer must not be too long to be read. -/
def resolve (sheet : Sheet) : Operand → Result Item
  | item value => .ok value
  | integer value => do
      let _ ← integerText value
      return .int value
  | register name => (sheet.registers.get? name).elim (.error (.emptyRegister name)) .ok
  | catalogueUnit name =>
      (Catalogue.standard.find? name).elim (.error .noSuchPart) fun unit => .ok (.ofUnit unit)
  | dimension name =>
      (Table.get? Dimension.named name).elim (.error .noSuchPart) fun value =>
        .ok (.dimension (value.map .number))
  | list operands => do return .list (← resolveAll sheet operands)

def resolveAll (sheet : Sheet) : List Operand → Result (List Item)
  | [] => .ok []
  | operand :: rest => do return (← operand.resolve sheet) :: (← resolveAll sheet rest)

end

end Operand

namespace Sheet

def keep (sheet : Sheet) (register : Option String) (item : Item) : Sheet :=
  match register with
  | some name => { sheet with registers := sheet.registers.put name item }
  | none => sheet

/-- Operands and results that have just been made are marked. -/
def callOn (sheet : Sheet) (instruction : Instruction) : Result (Sheet × Item) := do
  let (sheet, operands) := sheet.marking (← Operand.resolveAll sheet instruction.operands)
  let (sheet, item) ← sheet.call instruction.call operands
  let (item, lastMark) := item.withMarks.run sheet.lastMark
  return ({ sheet with lastMark }, item)

/-- A call whose result cannot be shown has been made all the same. -/
def run (sheet : Sheet) (instruction : Instruction) : Sheet × Result View :=
  match sheet.callOn instruction with
  | .error fault => (sheet, .error fault)
  | .ok (changed, item) =>
      match View.ofItem changed item with
      | .error fault => (changed, .error fault)
      | .ok view => (changed.keep instruction.register item, .ok view)

def runAll (sheet : Sheet) : List Instruction → List (Result View)
  | [] => []
  | instruction :: rest =>
      let (changed, view) := sheet.run instruction
      view :: changed.runAll rest

end Sheet

def runWorksheet (instructions : List Instruction) : List (Result View) :=
  Sheet.initial.runAll instructions

end Metrology
