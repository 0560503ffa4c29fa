import Metrology.Display.Converter
import Metrology.Quantity
import Metrology.Table

/-!
Items: everything a worksheet computes with. Items are open on all sides: a
quantity may have any item for its magnitude, a unit any item for its dimension, a
ratio any item for a literal, and only an operation finds out whether it can do
anything with what it meets.

Builders, registries and attribute accesses change while a worksheet runs; an item
only says which of them it is.
-/

namespace Metrology

/-- A thing with an identity: two of them are one and the same when they bear the
same mark. Mark zero stands for a thing that has just been made and not been marked
yet; it is the same as nothing. -/
structure Marked (α : Type) where
  mark : Nat
  content : α

namespace Marked

variable {α : Type}

def fresh (content : α) : Marked α := ⟨0, content⟩

def isSame (left right : Marked α) : Bool := left.mark == right.mark && left.mark != 0

end Marked

inductive Item where
  | scalar (value : Scalar)
  | list (items : List Item)
  | tuple (items : List Item)
  | mapping (entries : List (Item × Item))
  | ratio (value : Ratio Item)
  | dimension (value : Dimension Item)
  | unit (value : MeasurementUnit Item Item)
  | quantity (value : Marked (Quantity Item Item Item))
  | step (value : Step (Marked (Action Item)))
  | pipeline (value : Marked (Pipeline (Marked (Action Item))))
  | builder (index : Nat)
  | registry (index : Nat)
  /-- Access to the units of a registry by attribute name. -/
  | attributes (index : Nat)
  | intermediate (value : Intermediate Item)
  | converter (value : Marked (Converter Item))
  | transform (value : Marked (Transform Item))
  /-- What an item can be asked for, as a thing of its own. -/
  | method (receiver : Item) (name : String)
  /-- A kind of items as a thing of its own. -/
  | kindOf (home name : String)

/-- The units, quantities and actions of a worksheet. -/
abbrev ItemUnit : Type := MeasurementUnit Item Item
abbrev ItemQuantity : Type := Quantity Item Item Item
abbrev ItemAction : Type := Marked (Action Item)

namespace Item

instance : Inhabited Item := ⟨.scalar .absent⟩

def int (value : Int) : Item := .scalar (.int value)

def number (value : Number) : Item := .scalar (.number value)

def flag (value : Bool) : Item := .scalar (.flag value)

def text (value : String) : Item := .scalar (.text value)

def absent : Item := .scalar .absent

def texts (values : List String) : Item := .list (values.map text)

def textOrAbsent (value : Option String) : Item := .scalar (value.elim .absent .text)

def ofQuantity (value : ItemQuantity) : Item := .quantity (.fresh value)

def ofPipeline (value : Pipeline ItemAction) : Item := .pipeline (.fresh value)

/-- A unit of the catalogue as a unit of a worksheet. -/
def ofUnit (value : StandardUnit) : Item :=
  .unit (value.map (fun dimension => .dimension (dimension.map number)) number)

/-- The conversion of a unit as a pipeline of a worksheet. -/
def conversionSteps (conversion : Pipeline (Action Number)) : Pipeline ItemAction :=
  conversion.map fun action => .fresh (action.map number)

/-- The name of an item's kind in diagnostics. -/
def kind : Item → String
  | scalar value => value.kind
  | list _ => "list"
  | tuple _ => "tuple"
  | mapping _ => "dict"
  | ratio _ => "SymbolicRational"
  | dimension _ => "Dimension"
  | unit _ => "Unit"
  | quantity _ => "Quantity"
  | step _ => "ElementaryOperation"
  | pipeline _ => "ConversionPipeline"
  | builder _ => "PipelineBuilder"
  | registry _ => "UnitsRegistry"
  | attributes _ => "UnitNamespace"
  | intermediate _ => "Intermediate"
  | converter _ => "Converter"
  | transform _ => "function"
  | method _ _ => "method"
  | kindOf _ _ => "type"

/-- Where the kind of an item is at home. -/
def home : Item → String
  | ratio _ => "unitpipe.core.rational"
  | dimension _ => "unitpipe.core.dimensions"
  | unit _ => "unitpipe.core.unit"
  | quantity _ => "unitpipe.core.quantity"
  | step _ => "unitpipe.core.pipeline"
  | pipeline _ => "unitpipe.core.pipeline"
  | builder _ => "unitpipe.core.pipeline"
  | registry _ => "unitpipe.units.registry"
  | attributes _ => "unitpipe.units.registry"
  | intermediate _ => "unitpipe.io.formatting"
  | converter _ => "unitpipe.io.formatting"
  | _ => "builtins"

/-! ## Text -/

/-- Items in a row, between brackets. -/
def enclosed (opening closing : String) (items : List String) : String :=
  opening ++ String.intercalate ", " items ++ closing

/-- Items without a text of their own are shown by their kind. -/
def anonymous (item : Item) : String := "<" ++ item.kind ++ ">"

/-- The ways of writing an item: in full as listings show it, as a magnitude in a
display or a label, or as the text of the item itself. -/
inductive Writing where
  | listed
  | compact
  | plain

def writtenScalar (value : Scalar) : Writing → Result String
  | .listed => value.shown
  | .compact => value.compactText
  | .plain => value.plainText

mutual

/-- The text of an item. Only scalars, symbols, quantities and intermediate values
have a text of their own; a magnitude is compact only where it is a scalar. -/
def written (writing : Writing) : Item → Result String
  | scalar value => writtenScalar value writing
  | list items => do return enclosed "[" "]" (← writtenAll items)
  | tuple [item] => do return "(" ++ (← written .listed item) ++ ",)"
  | tuple items => do return enclosed "(" ")" (← writtenAll items)
  | mapping entries => do return enclosed "\x7b" "\x7d" (← writtenEntries entries)
  | ratio value =>
      match writing with
      | .plain => .ok value.text
      | _ => .ok value.shown
  | dimension value =>
      match writing with
      | .plain => .ok value.text
      | _ => .ok value.shown
  | unit ⟨measured, symbol, conversion, isBase⟩ =>
      match writing with
      | .plain => .ok symbol.text
      | _ => do
          return MeasurementUnit.shown (← written .plain measured)
            ⟨measured, symbol, conversion, isBase⟩
  | quantity ⟨_, ⟨value, measuredIn⟩⟩ =>
      match writing with
      | .plain => do return Quantity.text (← written .compact value) ⟨value, measuredIn⟩
      | _ => do return Quantity.shown (← written .listed value) ⟨value, measuredIn⟩
  | step value => .ok ("<op " ++ value.shownLabel ++ ">")
  | pipeline value => .ok value.content.shown
  | intermediate ⟨value, text⟩ =>
      match writing, text with
      | .plain, some text => .ok text
      | .plain, none => written .compact value
      | _, text => do return Intermediate.shown (← written .listed value) ⟨value, text⟩
  | kindOf home name =>
      .ok ("<class " ++ quoted (if home == "builtins" then name else home ++ "." ++ name) ++ ">")
  | other => .ok other.anonymous

def writtenAll : List Item → Result (List String)
  | [] => .ok []
  | item :: rest => do return (← written .listed item) :: (← writtenAll rest)

def writtenEntries : List (Item × Item) → Result (List String)
  | [] => .ok []
  | (key, value) :: rest => do
      let key ← written .listed key
      return (key ++ ": " ++ (← written .listed value)) :: (← writtenEntries rest)

end

def shown (item : Item) : Result String := item.written .listed

def compactText (item : Item) : Result String := item.written .compact

def plainText (item : Item) : Result String := item.written .plain

/-! ## Reading items -/

def toText : Item → Result String
  | scalar (.text value) => .ok value
  | _ => .error .unsupported

def toText? : Item → Option String
  | scalar (.text value) => some value
  | _ => none

def toNumber : Item → Result Number
  | scalar value => value.toNumber
  | _ => .error .unsupported

def toInt : Item → Result Int
  | scalar value => value.toInt
  | _ => .error .unsupported

/-- What an item consists of, for items that can be gone through. -/
def members : Item → Result (List Item)
  | scalar (.text value) => .ok (value.toList.map fun character => text (String.singleton character))
  | list items => .ok items
  | tuple items => .ok items
  | mapping entries => .ok (entries.map (·.1))
  | pipeline value => .ok (value.content.steps.map step)
  | intermediate value => .ok [value.value, textOrAbsent value.text?]
  | _ => .error .unsupported

/-- An intermediate value is a pair. -/
def tuple? : Item → Option (List Item)
  | tuple items => some items
  | intermediate value => some [value.value, textOrAbsent value.text?]
  | _ => none

/-- Whether an item is the text that an intermediate value has fixed, or none. -/
def isFixedText (fixed : Option String) : Item → Bool
  | scalar (.text value) => fixed.any (· == value)
  | scalar .absent => fixed.isNone
  | _ => false

/-! ## Keys -/

mutual

/-- Whether an item can be a key. -/
def isKey : Item → Bool
  | list _ => false
  | mapping _ => false
  | quantity _ => false
  | tuple items => areKeys items
  | intermediate ⟨value, _⟩ => value.isKey
  | _ => true

def areKeys : List Item → Bool
  | [] => true
  | item :: rest => item.isKey && areKeys rest

end

mutual

/-- Whether two items are one and the same key, or one and the same term of a ratio.
Symbols and units are known by their text, things that are made by their identity. -/
def sameTerm : Item → Item → Bool
  | scalar left, scalar right => left == right
  | tuple left, tuple right => sameTerms left right
  | tuple left, intermediate right => sameTerms left [right.value, textOrAbsent right.text?]
  | intermediate ⟨value, fixed⟩, tuple [other, otherFixed] =>
      value.sameTerm other && isFixedText fixed otherFixed
  | intermediate ⟨value, fixed⟩, intermediate right =>
      value.sameTerm right.value && fixed == right.text?
  | ratio left, ratio right => left.equals right
  | dimension left, dimension right => left.equals right
  | unit left, unit right => left.equals right
  | quantity left, quantity right => left.isSame right
  | step left, step right =>
      left.forward.isSame right.forward && left.backward.isSame right.backward
  | pipeline left, pipeline right => left.isSame right
  | builder left, builder right => left == right
  | registry left, registry right => left == right
  | attributes left, attributes right => left == right
  | converter left, converter right => left.isSame right
  | transform left, transform right => left.isSame right
  | method left name, method right other => left.sameTerm right && name == other
  | kindOf home name, kindOf otherHome other => home == otherHome && name == other
  | _, _ => false

def sameTerms : List Item → List Item → Bool
  | [], [] => true
  | left :: lefts, right :: rights => left.sameTerm right && sameTerms lefts rights
  | _, _ => false

end

instance : BEq Item := ⟨sameTerm⟩

end Item
end Metrology
