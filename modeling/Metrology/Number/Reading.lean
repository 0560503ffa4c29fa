import Metrology.Number.Shortest

/-!
Reading decimal text. A double is read by rounding the exact decimal once, so that
every text that `shortestText` writes reads back as the number it was written for.
-/

namespace Metrology

def isAsciiDigit (character : Char) : Bool :=
  decide ('0' ≤ character) && decide (character ≤ '9')

def ofDecimalDigits (digits : List Char) : Nat := Nat.ofDigitChars 10 digits 0

theorem ofDecimalDigits_decimalDigits (value : Nat) :
    ofDecimalDigits (decimalDigits value) = value :=
  Nat.ofDigitChars_toDigits (by decide) (by decide)

/-- A number of at least one digit with an optional sign. -/
def readInteger? (text : List Char) : Option Int :=
  let (negative, digits) := match text with
    | '-' :: rest => (true, rest)
    | '+' :: rest => (false, rest)
    | _ => (false, text)
  if digits.isEmpty || !digits.all isAsciiDigit then none
  else some (Binary64.signed negative (ofDecimalDigits digits))

namespace Binary64

/-- Digits, perhaps with a point, perhaps with an exponent after `e`. -/
def readUnsigned? (negative : Bool) (text : List Char) : Option Binary64 :=
  let mantissa := text.takeWhile (· != 'e')
  let whole := mantissa.takeWhile isAsciiDigit
  let fraction := (mantissa.dropWhile isAsciiDigit).drop 1
  let exponent? := match text.dropWhile (· != 'e') with
    | [] => some 0
    | _ :: rest => readInteger? rest
  match exponent?, readInteger? (whole ++ fraction) with
  | some exponent, some digits =>
      some (ofDecimal negative digits.toNat (exponent - fraction.length))
  | _, _ => none

def ofText? (text : String) : Option Binary64 :=
  let (negative, rest) := match text.toList with
    | '-' :: rest => (true, rest)
    | other => (false, other)
  if rest = ['i', 'n', 'f'] then some (.infinite negative)
  else if rest = ['n', 'a', 'n'] then some (.nan 0)
  else readUnsigned? negative rest

example : ofText? "-1.5e-07" = some (ofDecimal true 15 (-8)) := by decide +kernel
example : ofText? "160.0" = some (ofInt 160) := by decide +kernel

end Binary64
end Metrology
