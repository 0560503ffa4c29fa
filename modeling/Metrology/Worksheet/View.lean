import Metrology.Worksheet.Methods

/-!
Views: what is shown of an item once a step has produced it. Numbers are shown as
text, so that none is too large or too small, and the view of an item fails where
one of its numbers is too long to be written or a part of it has no text.
-/

namespace Metrology

inductive View where
  | integer (text : String)
  | double (text : String)
  | flag (value : Bool)
  | text (value : String)
  | absent
  /-- A count that is not a result of its own. -/
  | count (value : Nat)
  | list (views : List View)
  | record (fields : List (String × View))

namespace View

def ofNumber : Number → Result View
  | .int value => do return .integer (← integerText value)
  | .float value => .ok (.double value.shortestText)

def ofScalar : Scalar → Result View
  | .number value => ofNumber value
  | .flag value => .ok (.flag value)
  | .text value => .ok (.text value)
  | .absent => .ok .absent

def ofTexts (values : List String) : View := .list (values.map .text)

def ofUnit (unit : ItemUnit) : Result View := do
  return .record
    [("unit", .text unit.symbol), ("dimension", .text (← unit.dimension.plainText)),
     ("base", .flag unit.isBase), ("pipeline", ofTexts unit.conversion.labels)]

/-- Of what can only be called nothing else is shown. -/
def callable : View := .record [("callable", .flag true)]

mutual

/-- The view of an item. -/
def ofItem (sheet : Sheet) : Item → Result View
  | .scalar value => ofScalar value
  | .list items => do return .list (← ofItems sheet items)
  | .tuple items => do return .list (← ofItems sheet items)
  | .mapping entries => do return .list (← ofEntries sheet entries)
  | .ratio ⟨⟨⟨above, below⟩, symbolic⟩, whole⟩ => do
      let above ← ofItems sheet above
      let below ← ofItems sheet below
      return .record
        [("rational", .text whole), ("literal", .list [.list above, .list below]),
         ("symbolic", .list [ofTexts symbolic.above, ofTexts symbolic.below])]
  | .dimension value => .ok (.record [("dimension", .text value.text)])
  | .unit value => ofUnit value
  | .quantity ⟨mark, ⟨value, unit⟩⟩ => do
      return .record
        [("quantity", .text (← (Item.quantity ⟨mark, ⟨value, unit⟩⟩).plainText)),
         ("value", ← ofItem sheet value), ("unit", .text unit.symbol),
         ("dimension", .text (← unit.dimension.plainText))]
  | .step value => .ok (.record [("operation", .text value.label)])
  | .pipeline value => .ok (.record [("pipeline", ofTexts value.content.labels)])
  | .builder index => do
      return .record [("builder", ofTexts (← sheet.builder index).labels)]
  | .registry index => do
      let registry := sheet.registry index
      let user ← registry.user.keys.mapM fun symbol => do return View.text (← symbol.plainText)
      return .record [("registry", .count registry.bound.length), ("user", .list user)]
  | .attributes _ => .ok (.record [("namespace", .flag true)])
  | .intermediate ⟨value, fixed⟩ => do
      return .record
        [("intermediate", .text (← (Item.intermediate ⟨value, fixed⟩).plainText)),
         ("value", ← ofItem sheet value), ("text", fixed.elim .absent .text)]
  | .converter value => .ok (.record [("converter", .count value.content.transforms.length)])
  | .transform _ => .ok callable
  | .method _ _ => .ok callable
  | .kindOf _ _ => .ok callable

def ofItems (sheet : Sheet) : List Item → Result (List View)
  | [] => .ok []
  | item :: rest => do return (← ofItem sheet item) :: (← ofItems sheet rest)

def ofEntries (sheet : Sheet) : List (Item × Item) → Result (List View)
  | [] => .ok []
  | (key, value) :: rest => do
      let key ← ofItem sheet key
      return .list [key, ← ofItem sheet value] :: (← ofEntries sheet rest)

end

end View
end Metrology
