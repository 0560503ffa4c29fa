import Metrology.Registry
import Metrology.Worksheet.Item

/-!
Operations on items. An operation is defined by the kinds of both operands; kinds
that do not go together are `unsupported`, except that anything can be compared for
equality.

An operation on items that hold items falls back on the operations on what they
hold: the sum of two quantities adds their magnitudes, whatever these are. So all of
this is defined in levels. Each level is written over the operations of the level
below, and the lowest one refuses everything as nested too deeply.
-/

namespace Metrology.Item

/-! ## Writing and rounding -/

def floor (item : Item) : Result Int := do (← item.toNumber).floor

def round (places : Option Int) (item : Item) : Result Number := do
  Decimal.round places (← item.toNumber)

instance : Decimal Item where
  floor := floor
  round := round
  compactText := compactText
  shown := shown
  plainText := plainText

/-- Truth values become integers and integral doubles too. -/
def normalize : Item → Item
  | scalar value => scalar value.normalize
  | other => other

/-- Any item but a number is its own single factor. -/
def factors (item : Item) : List Item :=
  match item.toNumber with
  | .ok value => value.factors.map number
  | .error _ => [item]

/-! ## Terms -/

/-- A text is a name in a ratio, and anything else a literal. -/
def toTerm : Item → Term Item
  | scalar (.text value) => .name value
  | other => .literal other

def ofTerm : Term Item → Item
  | .literal value => value
  | .name value => text value

def terms : Item → Result (List (Term Item))
  | scalar .absent => .error .unsupported
  | scalar value => .ok [(scalar value).toTerm]
  | item => do return (← item.members).map toTerm

section Level

variable [Arithmetic Item] [Dimensional Item] [Literal Item]

/-- A ratio of terms. Literals are counted, so that only keys will do. -/
def ratioOf (above below : List (Term Item)) : Result (Ratio Item) := do
  let parts := Parts.ofTerms above below
  if parts.literal.above.all isKey && parts.literal.below.all isKey then Ratio.ofParts parts
  else throw .unsupported

/-- An item as an operand of a ratio: a ratio, or what the terms of one are read from. -/
def toRatio : Item → Result (Ratio Item)
  | ratio value => .ok value
  | item => do ratioOf (← item.terms) []

def representation : Item → Result (Ratio Item)
  | unit value => .ok value.representation
  | dimension value => .ok value.representation
  | _ => .error .noSuchPart

/-! ## Sums and products -/

def plus (left right : Item) : Result Item :=
  match left, right with
  | scalar left, scalar right => do return scalar (← left.add right)
  | list left, list right => .ok (list (left ++ right))
  | quantity left, quantity right => do return ofQuantity (← left.content.add right.content)
  | left, right =>
      match left.tuple?, right.tuple? with
      | some left, some right => .ok (tuple (left ++ right))
      | _, _ => .error .unsupported

def minus : Item → Item → Result Item
  | scalar left, scalar right => do return scalar (← left.sub right)
  | quantity left, quantity right => do return ofQuantity (← left.content.subtract right.content)
  | _, _ => .error .unsupported

def isNumeric (operand : Scalar) : Bool := operand.toNumber?.isSome

def repeated (item : Item) (count : Scalar) : Result Item := do
  match item with
  | list items => return list (← Repetition.ofMembers items (← count.toInt))
  | item =>
      match item.tuple? with
      | some items => return tuple (← Repetition.ofMembers items (← count.toInt))
      | none => throw .unsupported

/-- A scalar times anything but a scalar, from either side alike: members are
repeated, and ratios take numbers and names. -/
def scalarTimes (factor : Scalar) : Item → Result Item
  | ratio value =>
      match factor with
      | .absent => .error .unsupported
      | factor => do return ratio (← value.times (← toRatio (scalar factor)))
  | item => item.repeated factor

def multiplied : Item → Item → Result Item
  | scalar left, scalar right => do return scalar (← left.mul right)
  | ratio left, ratio right => do return ratio (← left.times right)
  | dimension left, dimension right => do
      return dimension ⟨← left.representation.times right.representation⟩
  | unit left, unit right => do return unit (← left.times right)
  | quantity left, quantity right => do return ofQuantity (← left.content.times right.content)
  | quantity left, scalar right =>
      if isNumeric right then do return ofQuantity (← left.content.scale (scalar right))
      else .error .unsupported
  | scalar left, quantity right =>
      if isNumeric left then do return ofQuantity (← Quantity.scaleLeft (scalar left) right.content)
      else .error .unsupported
  | scalar left, unit right =>
      if isNumeric left then .ok (ofQuantity ⟨scalar left, right⟩) else .error .unsupported
  | scalar left, right => scalarTimes left right
  | left, scalar right => scalarTimes right left
  | _, _ => .error .unsupported

/-- Only a one can be divided by a unit. -/
def dividedByUnit (dividend : Item) (divisor : ItemUnit) : Result Item := do
  if dividend == int 1 then return unit (← divisor.reciprocal)
  else throw (.notReciprocal (← dividend.plainText) divisor.symbol)

def divided : Item → Item → Result Item
  | unit left, unit right => do return unit (← left.divide right)
  | dividend, unit divisor => dividedByUnit dividend divisor
  | scalar left, scalar right => do return scalar (← left.div right)
  | ratio left, ratio right => do return ratio (← left.divide right)
  | ratio _, scalar .absent => .error .unsupported
  | scalar .absent, ratio _ => .error .unsupported
  | ratio left, scalar right => do return ratio (← left.divide (← toRatio (scalar right)))
  | scalar left, ratio right => do return ratio (← (← toRatio (scalar left)).divide right)
  | dimension left, dimension right => do
      return dimension ⟨← left.representation.divide right.representation⟩
  | quantity left, quantity right => do return ofQuantity (← left.content.divide right.content)
  | quantity left, scalar right =>
      if isNumeric right then do return ofQuantity (← left.content.part (scalar right))
      else .error .unsupported
  | scalar left, quantity right =>
      if isNumeric left then do return ofQuantity (← Quantity.divideInto (scalar left) right.content)
      else .error .unsupported
  | _, _ => .error .unsupported

def negated : Item → Result Item
  | scalar value => do return scalar (← value.neg)
  | quantity value => do return ofQuantity (← value.content.negate)
  | _ => .error .unsupported

/-- Equality of members: one and the same thing equals itself, whatever it is. -/
def memberEquals (left right : Item) : Result Bool :=
  if left == right then .ok true else Arithmetic.equals left right

/-- Members after the first place where two rows differ are not looked at. -/
def membersEqual : List Item → List Item → Result Bool
  | left :: lefts, right :: rights => do
      if ← memberEquals left right then membersEqual lefts rights else return false
  | [], [] => .ok true
  | _, _ => .ok false

/-- Rows are ordered by the first place where they differ, and without one by their
length. -/
def membersCompare (comparison : Comparison) : List Item → List Item → Result Bool
  | left :: lefts, right :: rights => do
      if ← memberEquals left right then membersCompare comparison lefts rights
      else Arithmetic.compares comparison left right
  | [], [] => .ok (comparison.holds .eq)
  | [], _ :: _ => .ok (comparison.holds .lt)
  | _ :: _, [] => .ok (comparison.holds .gt)

/-- Mappings are equal when they hold equal values under the same keys. -/
def entriesEqual (left right : List (Item × Item)) : Result Bool := do
  if left.length != right.length then return false
  else
    left.foldlM (fun agree (key, value) =>
      match agree, Table.get? right key with
      | true, some other => memberEquals value other
      | _, _ => return false) true

/-- Equality of items; items of different kinds are unequal, except that an
intermediate value is a pair. -/
def equals (left right : Item) : Result Bool :=
  match left, right with
  | scalar left, scalar right => .ok (left.equals right)
  | list left, list right =>
      if left.length = right.length then membersEqual left right else .ok false
  | mapping left, mapping right => entriesEqual left right
  | quantity left, quantity right => left.content.same right.content
  | left, right =>
      match left.tuple?, right.tuple? with
      | some left, some right => membersEqual left right
      | _, _ => .ok (left == right)

/-- The four orderings, for scalars, for quantities and for rows of members. -/
def compared (comparison : Comparison) (left right : Item) : Result Bool :=
  match left, right with
  | scalar left, scalar right => left.compares comparison right
  | list left, list right => membersCompare comparison left right
  | quantity left, quantity right => left.content.compares comparison right.content
  | left, right =>
      match left.tuple?, right.tuple? with
      | some left, some right => membersCompare comparison left right
      | _, _ => .error .unsupported

/-! ## Operations that are asked for by name

Units and quantities take more operands when a product, a quotient or a comparison
is asked of them by name than as operands of an operator. -/

/-- A number by which a unit can be scaled or shifted; truth values are refused. -/
def unitScale : Item → Result Number
  | scalar (.number value) => .ok value
  | other => .error (.scaleKind other.kind)

def timesOperand (receiver : ItemUnit) : Item → Result ItemUnit
  | unit other => receiver.times other
  | operand => do receiver.scale (← unitScale operand)

def divideOperand (receiver : ItemUnit) : Item → Result ItemUnit
  | unit other => receiver.divide other
  | operand => do receiver.part (← unitScale operand)

def askTimes (receiver operand : Item) : Result Item :=
  match receiver, operand with
  | ratio value, operand => do return ratio (← value.times (← operand.toRatio))
  | dimension value, operand => do
      return dimension ⟨← value.representation.times (← operand.representation)⟩
  | unit value, operand => do return unit (← timesOperand value operand)
  | quantity value, quantity other => do return ofQuantity (← value.content.times other.content)
  | quantity value, factor => do return ofQuantity (← value.content.scale factor)
  | _, _ => .error .noSuchPart

def askDivide (receiver operand : Item) : Result Item :=
  match receiver, operand with
  | ratio value, operand => do return ratio (← value.divide (← operand.toRatio))
  | dimension value, operand => do
      return dimension ⟨← value.representation.divide (← operand.representation)⟩
  | unit value, operand => do return unit (← divideOperand value operand)
  | quantity value, quantity other => do return ofQuantity (← value.content.divide other.content)
  | quantity value, divisor => do return ofQuantity (← value.content.part divisor)
  | _, _ => .error .noSuchPart

def askEquals (receiver operand : Item) : Result Bool :=
  match receiver, operand with
  | ratio value, ratio other => .ok (value.equals other)
  | dimension value, operand => do return value.representation.equals (← operand.representation)
  | unit value, operand => do return value.representation.equals (← operand.representation)
  | quantity value, quantity other => value.content.equals other.content
  | _, _ => .error .noSuchPart

end Level

/-! ## Levels -/

/-- All that an operation may ask of what its operands hold. -/
structure Operations where
  arithmetic : Arithmetic Item
  dimensional : Dimensional Item
  literal : Literal Item

namespace Operations

def none : Operations where
  arithmetic :=
    { constant := fun value => .ok (.number value)
      add := fun _ _ => .error .tooDeep
      sub := fun _ _ => .error .tooDeep
      mul := fun _ _ => .error .tooDeep
      div := fun _ _ => .error .tooDeep
      neg := fun _ => .error .tooDeep
      equals := fun _ _ => .error .tooDeep
      compares := fun _ _ _ => .error .tooDeep }
  dimensional :=
    { dimensionless := .dimension ⟨Ratio.one⟩
      times := fun _ _ => .error .tooDeep
      divide := fun _ _ => .error .tooDeep
      equals := fun _ _ => .error .tooDeep
      text := plainText }
  literal :=
    { ofNumber := .number
      factors := factors
      fractionText := fun _ => .error .tooDeep }

def above (below : Operations) : Operations :=
  let _ := below.arithmetic
  let _ := below.dimensional
  let _ := below.literal
  { arithmetic :=
      { constant := fun value => .ok (.number value)
        add := plus
        sub := minus
        mul := multiplied
        div := divided
        neg := negated
        equals := equals
        compares := compared }
    dimensional :=
      { dimensionless := .dimension ⟨Ratio.one⟩
        times := askTimes
        divide := askDivide
        equals := askEquals
        text := plainText }
    literal :=
      { ofNumber := .number
        factors := factors
        fractionText := quotientText normalize } }

/-- The operations on items with so many levels. -/
def ofLevels : Nat → Operations
  | 0 => none
  | levels + 1 => above (ofLevels levels)

end Operations

/-- How deeply items can be nested for operations to reach through. -/
def nestingLimit : Nat := 1000

def operations : Operations := .ofLevels nestingLimit

instance : Arithmetic Item := operations.arithmetic
instance : Dimensional Item := operations.dimensional
instance : Literal Item := operations.literal

/-! ## Other uses of items -/

/-- Actions of a worksheet are carried out on items. -/
instance : Acts ItemAction Item where
  act action value := action.content.act .ok value

/-- Anything can be registered, under its own text. What is absent is never found. -/
instance : Bindable Item where
  symbol := plainText
  isPresent item := item.kind != absent.kind

/-- The power that is asked for by name, with an integer exponent. -/
def askPower (receiver : Item) (exponent : Int) : Result Item :=
  match receiver with
  | ratio value => do return ratio (← value.power exponent)
  | dimension value => do return dimension ⟨← value.representation.power exponent⟩
  | unit value => do return unit (← value.power (.int exponent))
  | _ => .error .noSuchPart

/-- Names in an expression may stand for any item that can be asked for products,
quotients and powers. -/
instance : Composable Item where
  times := askTimes
  divide := askDivide
  power := askPower
  placeholder symbol := .unit (.ofSymbol Dimensional.dimensionless symbol)

end Metrology.Item
