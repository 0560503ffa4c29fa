import Metrology.Number

/-!
Prime factors by trial division. Divisors are two and then the odd numbers, each
tried for as long as its square does not exceed what remains; what is left at the
end is prime.
-/

namespace Metrology

theorem lt_of_square_le {divisor value : Nat} (atLeastTwo : 2 ≤ divisor)
    (square : divisor * divisor ≤ value) : divisor < value := by
  have doubled : divisor * 2 ≤ divisor * divisor := Nat.mul_le_mul_left divisor atLeastTwo
  omega

def nextDivisor (divisor : Nat) : Nat := divisor + 1 + divisor % 2

/-- For a value that has no prime factor below `divisor`. -/
def factorsFrom (divisor value : Nat) (atLeastTwo : 2 ≤ divisor) : List Nat :=
  match bounded : Nat.ble (divisor * divisor) value, value % divisor with
  | true, 0 => divisor :: factorsFrom divisor (value / divisor) atLeastTwo
  | true, _ + 1 => factorsFrom (nextDivisor divisor) value (by unfold nextDivisor; omega)
  | false, _ => if 1 < value then [value] else []
termination_by value - divisor
decreasing_by
  · have smaller := lt_of_square_le atLeastTwo (Nat.le_of_ble_eq_true bounded)
    have quotient := Nat.div_lt_self (by omega : 0 < value) (by omega : 1 < divisor)
    omega
  · have smaller := lt_of_square_le atLeastTwo (Nat.le_of_ble_eq_true bounded)
    unfold nextDivisor
    omega

/-- A negative integer has a factor of minus one. -/
def integerFactors (value : Int) : List Int :=
  (if value < 0 then [-1] else []) ++ (factorsFrom 2 value.natAbs (by decide)).map Int.ofNat

/-- Zero and numbers that are no integers are their own single factor. -/
def Number.factors (number : Number) : List Number :=
  match number.normalize with
  | .int value => if value = 0 then [.int 0] else (integerFactors value).map .int
  | other => [other]

example : integerFactors (-360) = [-1, 2, 2, 2, 3, 3, 5] := by decide +kernel
example : integerFactors 1 = [] := by decide +kernel

end Metrology
