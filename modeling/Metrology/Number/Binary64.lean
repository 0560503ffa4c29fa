/-!
Double precision numbers as exact values. A finite number is a whole count of
quanta of 2⁻¹⁰⁷⁴, the smallest positive double, together with a sign; every
operation computes the exact result with unbounded naturals and rounds it once.
Nothing here depends on machine arithmetic, so all of it evaluates inside proofs.
-/

namespace Metrology

/-- A double. The count of quanta is kept even where the sign alone matters, so
that negative zero is `finite true 0`. A number that is not a number carries a
mark: it equals nothing, but a reader of data may still recognise one datum by
its mark (mark zero recognises nothing). -/
inductive Binary64 where
  | finite (negative : Bool) (quanta : Nat)
  | infinite (negative : Bool)
  | nan (mark : Nat)
  deriving DecidableEq, Repr, Inhabited

/-! ## Rounding a quotient -/

/-- Of two equally near, the even one. -/
def roundQuotient (numerator denominator : Nat) : Nat :=
  let floor := numerator / denominator
  let remainder := numerator % denominator
  if denominator < 2 * remainder then floor + 1
  else if 2 * remainder = denominator then floor + floor % 2
  else floor

example : [1, 3, 5, 7].map (roundQuotient · 2) = [0, 2, 2, 4] := by decide

def bitLength (value : Nat) : Nat :=
  if value = 0 then 0 else Nat.log2 value + 1

namespace Binary64

/-- How many quanta make one. -/
def one : Nat := Nat.pow 2 1074

/-- The first count of quanta that is too large for a double. -/
def overflowBound : Nat := Nat.pow 2 2098

def precision : Nat := 53

/-- The count of quanta that represents a quotient of quanta: at most 53
significant binary digits, rounded once with ties to even. -/
def roundQuanta (numerator denominator : Nat) : Nat :=
  let unit := Nat.pow 2 (bitLength (numerator / denominator) - precision)
  roundQuotient numerator (denominator * unit) * unit

/-- Past the largest double it is infinite. -/
def ofQuotient (negative : Bool) (numerator denominator : Nat) : Binary64 :=
  let quanta := roundQuanta numerator denominator
  if quanta < overflowBound then .finite negative quanta else .infinite negative

/-- A zero takes the sign it is given. -/
def ofQuanta (zeroNegative : Bool) (quanta : Int) : Binary64 :=
  if quanta = 0 then .finite zeroNegative 0
  else ofQuotient (decide (quanta < 0)) quanta.natAbs 1

def nearest (negative : Bool) (numerator denominator : Nat) : Binary64 :=
  ofQuotient negative (numerator * one) denominator

def ofInt (value : Int) : Binary64 :=
  ofQuanta false (value * one)

def zero : Binary64 := .finite false 0

/-- The offset of rounding half up. -/
def half : Binary64 := .finite false (one / 2)

/-! ## Sign and comparison -/

def isNegative : Binary64 → Bool
  | .finite negative _ => negative
  | .infinite negative => negative
  | .nan _ => false

def isFinite : Binary64 → Bool
  | .finite .. => true
  | _ => false

def signed (negative : Bool) (magnitude : Nat) : Int :=
  if negative then -(magnitude : Int) else magnitude

def quanta? : Binary64 → Option Int
  | .finite negative quanta => some (signed negative quanta)
  | _ => none

def compare? : Binary64 → Binary64 → Option Ordering
  | .nan _, _ => none
  | _, .nan _ => none
  | .infinite left, .infinite right =>
      some (if left = right then .eq else if left then .lt else .gt)
  | .infinite left, .finite .. => some (if left then .lt else .gt)
  | .finite .., .infinite right => some (if right then .gt else .lt)
  | .finite leftNegative left, .finite rightNegative right =>
      some (compare (signed leftNegative left) (signed rightNegative right))

def compareInt? (left : Int) : Binary64 → Option Ordering
  | .nan _ => none
  | .infinite right => some (if right then .gt else .lt)
  | .finite negative quanta => some (compare (left * one) (signed negative quanta))

/-! ## Arithmetic -/

def neg : Binary64 → Binary64
  | .finite negative quanta => .finite (!negative) quanta
  | .infinite negative => .infinite (!negative)
  | .nan _ => .nan 0

def add : Binary64 → Binary64 → Binary64
  | .nan _, _ => .nan 0
  | _, .nan _ => .nan 0
  | .infinite left, .infinite right => if left = right then .infinite left else .nan 0
  | .infinite left, .finite .. => .infinite left
  | .finite .., .infinite right => .infinite right
  | .finite leftNegative left, .finite rightNegative right =>
      ofQuanta (leftNegative && rightNegative)
        (signed leftNegative left + signed rightNegative right)

def sub (left right : Binary64) : Binary64 := left.add right.neg

def mul : Binary64 → Binary64 → Binary64
  | .nan _, _ => .nan 0
  | _, .nan _ => .nan 0
  | .finite leftNegative left, .finite rightNegative right =>
      ofQuotient (leftNegative != rightNegative) (left * right) one
  | .finite leftNegative left, .infinite right =>
      if left = 0 then .nan 0 else .infinite (leftNegative != right)
  | .infinite left, .finite rightNegative right =>
      if right = 0 then .nan 0 else .infinite (left != rightNegative)
  | .infinite left, .infinite right => .infinite (left != right)

/-- Callers refuse a zero divisor. -/
def div : Binary64 → Binary64 → Binary64
  | .nan _, _ => .nan 0
  | _, .nan _ => .nan 0
  | .finite leftNegative left, .finite rightNegative right =>
      ofQuotient (leftNegative != rightNegative) (left * one) right
  | .finite leftNegative _, .infinite right => .finite (leftNegative != right) 0
  | .infinite left, .finite rightNegative _ => .infinite (left != rightNegative)
  | .infinite _, .infinite _ => .nan 0

def isZero : Binary64 → Bool
  | .finite _ quanta => quanta == 0
  | _ => false

/-! ## Integers -/

def toInt? : Binary64 → Option Int
  | .finite negative quanta =>
      if quanta % one = 0 then some (signed negative (quanta / one)) else none
  | _ => none

example : ofInt 3 = .finite false (3 * one) := by decide +kernel

/-- One tenth is not a double: the sum of ten of them falls short of one. -/
example : List.foldl add zero (List.replicate 10 (nearest false 1 10)) ≠ ofInt 1 := by
  decide +kernel

/-- The first integer that no double represents rounds to its even neighbour. -/
example : ofInt (2 ^ 53 + 1) = ofInt (2 ^ 53) := by decide +kernel

/-! ## The other encoding -/

def signPlace : Nat := Nat.pow 2 63

def exponentPlace : Nat := Nat.pow 2 52

def toBits : Binary64 → Nat
  | .finite negative quanta =>
      let excess := bitLength quanta - precision
      let fraction := quanta / Nat.pow 2 excess
      (if negative then signPlace else 0) +
        (if fraction < exponentPlace then fraction
         else (excess + 1) * exponentPlace + (fraction - exponentPlace))
  | .infinite negative => (if negative then signPlace else 0) + 2047 * exponentPlace
  | .nan _ => 2047 * exponentPlace + exponentPlace / 2

def ofBits (bits : Nat) : Binary64 :=
  let negative := bits / signPlace % 2 == 1
  let exponent := bits / exponentPlace % 2048
  let fraction := bits % exponentPlace
  if exponent = 2047 then
    if fraction = 0 then .infinite negative else .nan 0
  else if exponent = 0 then .finite negative fraction
  else .finite negative ((exponentPlace + fraction) * Nat.pow 2 (exponent - 1))

example : ofBits (ofInt 10).toBits = ofInt 10 := by decide +kernel

/-- A power of two positive numbers, as the platform computes it. -/
def platformPower (base exponent : Binary64) : Binary64 :=
  let platform (value : Binary64) : Float := Float.ofBits (UInt64.ofNat value.toBits)
  ofBits ((platform base).pow (platform exponent)).toBits.toNat

end Binary64
end Metrology
