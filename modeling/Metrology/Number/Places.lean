import Metrology.Number.Shortest

/-!
Doubles at a fixed number of decimal places. Their text and the double nearest to them
come from one whole count of units of the last place, rounded on the exact value.
-/

namespace Metrology.Binary64

/-- Negative places count tens, hundreds and so on. -/
def unitsAt (places : Int) (quanta : Nat) : Nat :=
  let (numerator, denominator) := decimalQuotient quanta places
  roundQuotient numerator (denominator * one)

def roundedAt (places : Int) : Binary64 → Binary64
  | .finite negative quanta => ofDecimal negative (unitsAt places quanta) (-places)
  | other => other

/-- Without places there is no point. -/
def pointed (places : Nat) (digits : List Char) : List Char :=
  let padded := zeros (places + 1 - digits.length) ++ digits
  let whole := padded.length - places
  if places = 0 then padded else padded.take whole ++ '.' :: padded.drop whole

def fixedText (places : Nat) : Binary64 → String
  | .finite negative quanta =>
      String.ofList (sign negative ++ pointed places (decimalDigits (unitsAt places quanta)))
  | other => other.shortestText

example : (ofDecimal false 25 (-1)).fixedText 0 = "2" := by decide +kernel
example : (ofDecimal true 5 (-3)).fixedText 2 = "-0.01" := by decide +kernel
example : (ofInt 7).fixedText 3 = "7.000" := by decide +kernel

end Metrology.Binary64
