import Metrology.Fault
import Metrology.Number.Shortest
import Metrology.Number.Places

/-!
Numbers are exact integers or doubles, and stay apart: integers are added,
subtracted and multiplied exactly, the quotient of two integers is the double
nearest to it, and an integer that meets a double is first rounded to one.
Comparison never rounds.
-/

namespace Metrology

inductive Number where
  | int (value : Int)
  | float (value : Binary64)
  deriving DecidableEq, Repr, Inhabited

/-! ## Integer text -/

/-- The number of decimal digits of an integer text that is still read or written. -/
def digitLimit : Nat := 4300

def integerText (value : Int) : Result String :=
  let digits := decimalDigits value.natAbs
  if digitLimit < digits.length then .error .tooManyDigits
  else .ok (String.ofList (if value < 0 then '-' :: digits else digits))

namespace Number

/-- A numeral stands for an integer. -/
instance (value : Nat) : OfNat Number value := ⟨.int value⟩

instance : Coe Binary64 Number := ⟨.float⟩

def zero : Number := .int 0

/-! ## Moving between integers and doubles -/

def toDouble : Number → Result Binary64
  | .float value => .ok value
  | .int value =>
      let rounded := Binary64.ofInt value
      if rounded.isFinite then .ok rounded else .error .overflow

/-- A quotient of zero is negative when the divisor is. -/
def divideIntegers (left right : Int) : Result Number :=
  if right = 0 then .error .divisionByZero
  else
    let rounded := Binary64.nearest (decide (left < 0) != decide (right < 0)) left.natAbs right.natAbs
    if rounded.isFinite then .ok (.float rounded) else .error .overflow

/-! ## Arithmetic -/

/-- A double operation as soon as one operand is a double. -/
def combine (integers : Int → Int → Int) (doubles : Binary64 → Binary64 → Binary64) :
    Number → Number → Result Number
  | .int left, .int right => .ok (.int (integers left right))
  | left, right => do
      let left ← left.toDouble
      let right ← right.toDouble
      return .float (doubles left right)

def add : Number → Number → Result Number := combine (· + ·) Binary64.add

def sub : Number → Number → Result Number := combine (· - ·) Binary64.sub

def mul : Number → Number → Result Number := combine (· * ·) Binary64.mul

def div : Number → Number → Result Number
  | .int left, .int right => divideIntegers left right
  | left, right => do
      let left ← left.toDouble
      let right ← right.toDouble
      if right.isZero then .error .divisionByZero else return .float (left.div right)

def neg : Number → Number
  | .int value => .int (-value)
  | .float value => .float value.neg

end Number

/-! ## Comparison -/

inductive Comparison where
  | less
  | atMost
  | greater
  | atLeast
  deriving DecidableEq, Repr

/-- Whether a comparison holds of two things that stand in the given order. -/
def Comparison.holds : Comparison → Ordering → Bool
  | less, order => order == .lt
  | atMost, order => order != .gt
  | greater, order => order == .gt
  | atLeast, order => order != .lt

namespace Number

def compare? : Number → Number → Option Ordering
  | .int left, .int right => some (compare left right)
  | .int left, .float right => Binary64.compareInt? left right
  | .float left, .int right => (Binary64.compareInt? right left).map Ordering.swap
  | .float left, .float right => left.compare? right

def equals (left right : Number) : Bool := left.compare? right == some .eq

/-- Nothing compares with a number that is not a number. -/
def compares (comparison : Comparison) (left right : Number) : Bool :=
  (left.compare? right).any comparison.holds

/-- Whether two numbers are one and the same term: they are equal, or they are
one marked datum that is not a number. -/
def sameTerm : Number → Number → Bool
  | .float (.nan left), .float (.nan right) => left == right && left != 0
  | left, right => left.equals right

instance : BEq Number := ⟨sameTerm⟩

/-! ## Integral doubles -/

/-- The bound below which every integral double is read as an integer. -/
def integralBound : Nat := Nat.pow 2 53

def normalize : Number → Number
  | .float value =>
      match value.toInt? with
      | some whole => if whole.natAbs < integralBound then .int whole else .float value
      | none => .float value
  | .int value => .int value

def floor : Number → Result Int
  | .int value => .ok value
  | .float (.nan _) => .error .notANumber
  | .float (.infinite _) => .error .overflow
  | .float (.finite negative quanta) =>
      .ok ((Binary64.signed negative quanta).fdiv Binary64.one)

/-- Integers are written in full, doubles in their shortest form. -/
def text : Number → Result String
  | .int value => integerText value
  | .float value => .ok value.shortestText

def compactText (number : Number) : Result String := number.normalize.text

/-! ## Rounding -/

/-- An integer rounded to a multiple of a power of ten, a half to the even multiple. -/
def roundInteger (value : Int) (places : Int) : Int :=
  if 0 ≤ places then value
  else if (decimalDigits value.natAbs).length < places.natAbs then 0
  else
    let unit := Nat.pow 10 places.natAbs
    Binary64.signed (decide (value < 0)) (roundQuotient value.natAbs unit * unit)

/-- From so many places on every double is its own rounding. -/
def mostPlaces : Int := 323

/-- Below so many places every double rounds to zero. -/
def fewestPlaces : Int := -308

def roundDouble (value : Binary64) (places : Int) : Result Binary64 :=
  match value with
  | .finite negative _ =>
      if mostPlaces < places then .ok value
      else if places < fewestPlaces then .ok (.finite negative 0)
      else
        let rounded := value.roundedAt places
        if rounded.isFinite then .ok rounded else .error .overflow
  | .infinite negative => .ok (.infinite negative)
  | .nan _ => .ok (.nan 0)

def round (places : Int) : Number → Result Number
  | .int value => .ok (.int (roundInteger value places))
  | .float value => return .float (← roundDouble value places)

def roundToInteger : Number → Result Int
  | .int value => .ok value
  | .float (.finite negative quanta) =>
      .ok (Binary64.signed negative (roundQuotient quanta Binary64.one))
  | other => other.floor

example : round (-1) (.int 25) = .ok (.int 20) := by decide +kernel
example : compactText (.float (Binary64.ofInt 160)) = .ok "160" := by decide +kernel

end Number
end Metrology
