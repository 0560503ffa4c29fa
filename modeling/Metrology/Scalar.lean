import Metrology.Number.Power
import Metrology.Repetition

/-!
Scalars: what a magnitude or an operand may be. Besides numbers there are truth
values, which count as one and zero, texts, which can be joined, repeated and
ordered, and an absent value. An operation on other kinds is `unsupported`.
-/

namespace Metrology

inductive Scalar where
  | number (value : Number)
  | flag (value : Bool)
  | text (value : String)
  | absent
  deriving DecidableEq, Repr, Inhabited

namespace Scalar

def int (value : Int) : Scalar := .number (.int value)

def float (value : Binary64) : Scalar := .number (.float value)

def ofFlag (value : Bool) : Number := .int (if value then 1 else 0)

def toNumber? : Scalar → Option Number
  | .number value => some value
  | .flag value => some (ofFlag value)
  | _ => none

/-- An integral double does not count. -/
def toInt? : Scalar → Option Int
  | .number (.int value) => some value
  | .flag value => some (if value then 1 else 0)
  | _ => none

def toNumber (scalar : Scalar) : Result Number :=
  scalar.toNumber?.elim (.error .unsupported) .ok

def toInt (scalar : Scalar) : Result Int := scalar.toInt?.elim (.error .unsupported) .ok

def isTrue : Scalar → Bool
  | .number value => !value.equals .zero
  | .flag value => value
  | .text value => !value.isEmpty
  | .absent => false

/-! ## Arithmetic -/

def arithmetic (operation : Number → Number → Result Number) (left right : Scalar) :
    Result Scalar := do
  return .number (← operation (← left.toNumber) (← right.toNumber))

def add : Scalar → Scalar → Result Scalar
  | .text left, .text right => .ok (.text (left ++ right))
  | left, right => arithmetic Number.add left right

def sub : Scalar → Scalar → Result Scalar := arithmetic Number.sub

def mul : Scalar → Scalar → Result Scalar
  | .text content, right => do return .text (← Repetition.ofText content (← right.toInt))
  | left, .text content => do return .text (← Repetition.ofText content (← left.toInt))
  | left, right => arithmetic Number.mul left right

def div : Scalar → Scalar → Result Scalar := arithmetic Number.div

def neg (scalar : Scalar) : Result Scalar := do
  return .number (← scalar.toNumber).neg

def power : Scalar → Scalar → Result Scalar := arithmetic Number.power

/-! ## Comparison -/

/-- Numbers and truth values are equal by value, anything else only to its kind. -/
def equals : Scalar → Scalar → Bool
  | .text left, .text right => left == right
  | .absent, .absent => true
  | left, right =>
      match left.toNumber?, right.toNumber? with
      | some left, some right => left.equals right
      | _, _ => false

/-- Texts are ordered by code point. -/
def compares (comparison : Comparison) : Scalar → Scalar → Result Bool
  | .text left, .text right => .ok (comparison.holds (compare left right))
  | left, right => do return (← left.toNumber).compares comparison (← right.toNumber)

def sameTerm (left right : Scalar) : Bool :=
  match left.toNumber?, right.toNumber? with
  | some left, some right => left.sameTerm right
  | none, none => left.equals right
  | _, _ => false

instance : BEq Scalar := ⟨sameTerm⟩

/-! ## Text -/

def shown : Scalar → Result String
  | .number value => value.text
  | .flag value => .ok (if value then "True" else "False")
  | .text value => .ok (quoted value)
  | .absent => .ok "None"

/-- A text stands for itself. -/
def plainText : Scalar → Result String
  | .text value => .ok value
  | other => other.shown

/-- Truth values become integers and integral doubles too. -/
def normalize : Scalar → Scalar
  | .number value => .number value.normalize
  | .flag value => .number (ofFlag value)
  | other => other

def compactText (scalar : Scalar) : Result String := scalar.normalize.shown

def kind : Scalar → String
  | .number (.int _) => "int"
  | .number (.float _) => "float"
  | .flag _ => "bool"
  | .text _ => "str"
  | .absent => "NoneType"

example : mul (.text "ab") (.flag true) = .ok (.text "ab") := by decide +kernel
example : compactText (.float (Binary64.ofInt 4)) = .ok "4" := by decide +kernel

end Scalar
end Metrology
