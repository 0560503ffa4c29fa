import Metrology.Worksheet.Membership

/-!
Unit expressions in a worksheet. Besides a text, a row of pieces can be read as an
expression: each piece is looked at where a text has a character. Only the pieces
that are separators or operators can be made anything of; a name or a number would
have to be cut out of a text.
-/

namespace Metrology

namespace Lexer

/-- What is wrong with a piece that starts a number: further pieces are looked at for
as long as they are digits. -/
def numberFault : List Item → Fault
  | [] => .unsupported
  | .scalar (.text piece) :: rest =>
      if !piece.isEmpty && piece.toList.all isAsciiDigit then numberFault rest else .unsupported
  | _ :: _ => .noSuchPart

def scanPieces (position : Nat) : List Item → Result (List Token)
  | [] => .ok []
  | .scalar (.text piece) :: rest =>
      match piece.toList with
      | [character] =>
          if isSeparator character then scanPieces (position + 1) rest
          else
            match Lexeme.operator? character with
            | some operator => do return ⟨operator, position⟩ :: (← scanPieces (position + 1) rest)
            | none =>
                if isNameStart character then .error .unsupported
                else if isAsciiDigit character then .error (numberFault rest)
                else .error (.badToken piece position)
      | characters =>
          match composed characters with
          | [character] =>
              if isNameLetter character then .error .unsupported
              else .error (.badToken piece position)
          | _ =>
              if !characters.isEmpty && characters.all isAsciiDigit then .error (numberFault rest)
              else .error (.badToken piece position)
  | _ :: _ => .error .unsupported

end Lexer

namespace Sheet

/-- Anything without members is an expression of nothing. -/
def planOf (sheet : Sheet) (expression : Item) : Result Plan := do
  if !expression.isKey then throw .unsupported
  match expression with
  | .scalar (.text text) => Plan.ofText text
  | expression =>
      let pieces ← sheet.members expression
      match expression.tuple? with
      | some pieces => Parser.parse pieces.length (← Lexer.scanPieces 0 pieces)
      | none => if pieces.isEmpty then Parser.parse 0 [] else throw .unsupported

def parse (sheet : Sheet) (index : Nat) (expression : Item) : Result Item := do
  let _ := sheet.symbols
  (← sheet.planOf expression).evaluate (sheet.registry index).find?

def parseDefault (sheet : Sheet) (expression : Item) : Result Item := sheet.parse 0 expression

def isComposed (sheet : Sheet) (item : Item) : Result Bool :=
  Registry.operators.foldlM
    (fun found operator =>
      if found then return true else sheet.isIn (.text (String.singleton operator)) item)
    false

/-- A symbol with an operator in it is evaluated, anything else must be bound. -/
def get (sheet : Sheet) (index : Nat) (symbol : Item) : Result Item := do
  let _ := sheet.symbols
  match symbol with
  | .scalar (.text text) => (sheet.registry index).get text
  | symbol =>
      if ← sheet.isComposed symbol then sheet.parse index symbol
      else (sheet.registry index).require symbol

def getFrom (sheet : Sheet) (key : Item) : Item → Result Item
  | .registry index => sheet.get index key
  | .mapping entries =>
      if key.isKey then .ok ((Table.get? entries key).getD .absent) else .error .unsupported
  | _ => .error .noSuchPart

/-- What stands behind the access has a name too. -/
def attributeOf (sheet : Sheet) (index : Nat) (name : String) : Result Item :=
  let _ := sheet.symbols
  let behind := sheet.behind index
  match name, behind with
  | "_reg", behind => .ok behind
  | name, .registry index => (sheet.registry index).byAttribute name
  | name, .mapping entries => sheet.getFrom (.text name) (.mapping entries)
  | name, _ => .error (.noAttribute name)

end Sheet
end Metrology
