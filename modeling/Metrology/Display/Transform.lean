import Metrology.Display.Grouping
import Metrology.Display.Intermediate

/-!
Display transforms. Numeric ones compute a new value and drop the text, textual
ones keep the value and fix a text.
-/

namespace Metrology

inductive Transform (α : Type) where
  | divideBy (divisor : α)
  | multiplyBy (factor : α)
  /-- Round half up to decimal places; `scale` is ten to the power of the places. What
  is no count of places is found out when a text is to be written. -/
  | roundTo (places : Option Nat) (scale : Number) (keepsZeros : Bool)
  | leadWith (lead : α)
  | endWith (tail : α)
  /-- Group the digits before the point. A negative size groups nothing. What is no
  text cannot separate, but that matters only once there are groups. -/
  | groupDigits (size : Int) (separator : Option String)
  /-- Append a mark and put everything in capitals. -/
  | shout (mark : Option String)

namespace Transform

/-! ## Group sizes -/

/-- The first group size that is too large to be searched for. -/
def sizeBound : Nat := Nat.pow 2 32 - 1

/-- The size of a group; a fraction is cut off. -/
def groupSize : Number → Result Int
  | .int size => do
      let _ ← integerText size
      return size
  | .float (.nan _) => .error .notANumber
  | .float (.infinite _) => .error .overflow
  | .float (.finite negative quanta) =>
      .ok (Binary64.signed negative (quanta / Binary64.one))

def groupingDigits {α : Type} (size : Number) (separator : Option String) :
    Result (Transform α) := do
  let size ← groupSize size
  if sizeBound ≤ size then throw .overflow
  else return .groupDigits size separator

/-! ## Rounding -/

def withoutZeroFraction (text : String) : String :=
  let whole := text.toList.takeWhile (· != '.')
  let fraction := (text.toList.dropWhile (· != '.')).drop 1
  if fraction.all (· == '0') then String.ofList whole else text

section Rounding

variable {α : Type} [Arithmetic α] [Decimal α]

def roundHalfUp (scale : Number) (value : α) : Result Number := do
  let scaled ← Arithmetic.mul value (← Arithmetic.constant scale)
  let raised ← Arithmetic.add scaled (← Arithmetic.constant (.float .half))
  Number.div (.int (← Decimal.floor raised)) scale

/-- The value is that of the text that is fixed. -/
def round (places : Option Nat) (scale : Number) (keepsZeros : Bool) (value : α) :
    Result (Intermediate α) := do
  let rounded ← (← roundHalfUp scale value).toDouble
  match places with
  | none => throw .badPlaces
  | some places =>
      let text := rounded.fixedText places
      let value ← Arithmetic.constant (.float (rounded.roundedAt places))
      return ⟨value, some (if keepsZeros then text else withoutZeroFraction text)⟩

end Rounding

/-! ## Texts -/

/-- Digits are grouped up to the first point. -/
def groupText (size : Int) (separator : Option String) (text : String) : Result String := do
  let whole := text.toList.takeWhile (· != '.')
  let rest := text.toList.dropWhile (· != '.')
  if size < 0 then return text
  else
    match separator with
    | some separator =>
        return String.ofList ((← Grouping.group size.toNat separator.toList whole) ++ rest)
    | none =>
        match Grouping.step? size.toNat [] whole with
        | none => return text
        | some _ => throw .unsupported

def capitals (text : String) : String := text.map Char.toUpper

/-! ## Application -/

section Application

variable {α : Type} [Arithmetic α] [Decimal α]

/-- The result for something that has a value and a text, either of which may be
missing. Grouping asks for the text first, all others ask for the value first. -/
def applyTo (value : Result α) (text : Result String) :
    Transform α → Result (Intermediate α)
  | divideBy divisor => do return .ofValue (← Arithmetic.div (← value) divisor)
  | multiplyBy factor => do return .ofValue (← Arithmetic.mul (← value) factor)
  | roundTo places scale keepsZeros => do round places scale keepsZeros (← value)
  | leadWith lead => do
      let value ← value
      let lead ← Decimal.plainText lead
      return ⟨value, some (lead ++ (← text))⟩
  | endWith tail => do
      let value ← value
      let text ← text
      return ⟨value, some (text ++ (← Decimal.plainText tail))⟩
  | groupDigits size separator => do
      let grouped ← groupText size separator (← text)
      return ⟨← value, some grouped⟩
  | shout mark => do
      let value ← value
      let text ← text
      match mark with
      | some mark => return ⟨value, some (capitals (text ++ mark))⟩
      | none => throw .unsupported

def apply (transform : Transform α) (intermediate : Intermediate α) : Result (Intermediate α) :=
  transform.applyTo (.ok intermediate.value) intermediate.text

end Application

end Transform
end Metrology
