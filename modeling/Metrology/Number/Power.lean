import Metrology.Number

/-!
Powers of numbers. A power of integers with a natural exponent is exact. A power of
doubles is settled here wherever it is exceptional, by the sign, the size and the
parity of its operands; what is left to the platform is the power of two positive
finite numbers.
-/

namespace Metrology

/-! ## Integers -/

/-- Powers of one, zero and minus one need no multiplication, however large the
exponent. -/
def integerPower (base : Int) (exponent : Nat) : Int :=
  if base = 1 then 1
  else if base = 0 then (if exponent = 0 then 1 else 0)
  else if base = -1 then (if exponent % 2 = 0 then 1 else -1)
  else Binary64.signed (decide (base < 0) && exponent % 2 != 0) (Nat.pow base.natAbs exponent)

example : integerPower (-2) 5 = -32 := by decide
example : integerPower (-1) 1000000000001 = -1 := by decide

def powerModulo (modulus base exponent : Nat) : Nat :=
  if exponent = 0 then 1 % modulus
  else
    let rest := powerModulo modulus (base * base % modulus) (exponent / 2)
    if exponent % 2 = 0 then rest else base * rest % modulus
termination_by exponent
decreasing_by omega

/-- The greatest common divisor of two naturals together with how often the first
goes into it, up to multiples of the second. -/
def divisorCombination (left right : Nat) : Nat × Int × Int :=
  if right = 0 then (left, 1, 0)
  else
    let (divisor, ofRight, ofRest) := divisorCombination right (left % right)
    (divisor, ofRest, ofRight - (left / right : Nat) * ofRest)
termination_by right
decreasing_by exact Nat.mod_lt _ (by omega)

/-- The natural below `modulus` that undoes a multiplication by `value`. -/
def inverseModulo? (modulus value : Nat) : Option Nat :=
  let (divisor, coefficient, _) := divisorCombination value modulus
  if divisor = 1 then some (coefficient.emod modulus).toNat else none

def residuePower (modulus : Nat) (base exponent : Int) : Result Nat := do
  let residue := (base.emod modulus).toNat
  if modulus = 1 then return 0
  else if 0 ≤ exponent then return powerModulo modulus residue exponent.toNat
  else
    match inverseModulo? modulus residue with
    | some inverse => return powerModulo modulus inverse exponent.natAbs
    | none => throw .notInvertible

/-- The result has the sign of the modulus. -/
def modularPower (base exponent modulus : Int) : Result Int := do
  if modulus = 0 then throw .notInvertible
  let residue ← residuePower modulus.natAbs base exponent
  return if modulus < 0 ∧ residue ≠ 0 then residue + modulus else residue

example : modularPower (-5) 1000000000001 13 = .ok 8 := by decide +kernel
example : modularPower 3 (-1) 7 = .ok 5 := by decide +kernel
example : modularPower 7 3 (-5) = .ok (-2) := by decide +kernel

namespace Number

/-! ## Doubles -/

def isOdd (value : Binary64) : Bool :=
  match value.toInt? with
  | some whole => whole % 2 != 0
  | none => false

/-- A power past the largest double is refused. -/
def finitePower (negative : Bool) (magnitude exponent : Binary64) : Result Binary64 :=
  let power := Binary64.platformPower magnitude exponent
  if power.isFinite then .ok (if negative then power.neg else power) else .error .overflow

/-- The power of two doubles. The exponent zero gives one, and so does the base one,
whatever the other operand is. A negative number has no power with a fraction in
the exponent. -/
def doublePower : Binary64 → Binary64 → Result Binary64
  | _, .finite _ 0 => .ok (.ofInt 1)
  | .nan _, _ => .ok (.nan 0)
  | base, .nan _ => .ok (if base == .ofInt 1 then .ofInt 1 else .nan 0)
  | .infinite _, .infinite falling => .ok (if falling then .zero else .infinite false)
  | .finite _ quanta, .infinite falling =>
      .ok (if quanta = Binary64.one then .ofInt 1
        else if falling = decide (quanta < Binary64.one) then .infinite false
        else .zero)
  | .infinite negative, exponent =>
      let sign := negative && isOdd exponent
      .ok (if exponent.isNegative then .finite sign 0 else .infinite sign)
  | .finite negative 0, exponent =>
      if exponent.isNegative then .error .divisionByZero
      else .ok (.finite (negative && isOdd exponent) 0)
  | .finite negative quanta, exponent =>
      if negative && exponent.toInt?.isNone then .error .unsupported
      else
        let sign := negative && isOdd exponent
        if quanta = Binary64.one then .ok (.finite sign quanta)
        else finitePower sign (.finite false quanta) exponent

example : doublePower .zero (.infinite true) = .ok (.infinite false) := by decide +kernel
example : doublePower (.infinite true) (.ofInt (-3)) = .ok (.finite true 0) := by decide +kernel
example : doublePower .zero (.ofInt (-1)) = .error .divisionByZero := by decide +kernel

def power : Number → Number → Result Number
  | .int base, .int exponent =>
      if 0 ≤ exponent then .ok (.int (integerPower base exponent.toNat))
      else do
        let base ← (Number.int base).toDouble
        return .float (← doublePower base (← (Number.int exponent).toDouble))
  | base, exponent => do
      let base ← base.toDouble
      return .float (← doublePower base (← exponent.toDouble))

/-! ## Powers of ten -/

def ten : Binary64 := .ofInt 10

/-- Ten to a power: an exact integer for a natural exponent, the nearest double for
a negative integer, and otherwise the power of doubles. -/
def powerOfTen : Number → Result Number
  | .int exponent =>
      if 0 ≤ exponent then .ok (.int (Nat.pow 10 exponent.toNat))
      else do
        let _ ← (Number.int exponent).toDouble
        return .float (if exponent < -400 then .zero else Binary64.ofDecimal false 1 exponent)
  | .float exponent => return .float (← doublePower ten exponent)

end Number
end Metrology
