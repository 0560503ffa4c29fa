import Metrology.Number.Binary64

/-!
The shortest decimal text of a double: the fewest significant digits that read
back as the same number, and of those the nearest. For each length the two
neighbours of the exact value on that decimal grid are tried, in exact natural
arithmetic, until one reads back; seventeen digits always do.
-/

namespace Metrology

def zeros (count : Nat) : List Char := List.replicate count '0'

def decimalDigits (value : Nat) : List Char := Nat.toDigits 10 value

namespace Binary64

/-! ## Decimal grids -/

def decimalQuotient (digits : Nat) (exponent : Int) : Nat × Nat :=
  (digits * Nat.pow 10 exponent.toNat, Nat.pow 10 (-exponent).toNat)

def ofDecimal (negative : Bool) (digits : Nat) (exponent : Int) : Binary64 :=
  let (numerator, denominator) := decimalQuotient digits exponent
  nearest negative numerator denominator

def reaches (quanta : Nat) (exponent : Int) : Bool :=
  let (numerator, denominator) := decimalQuotient 1 exponent
  decide (numerator * one ≤ quanta * denominator)

/-- The binary length bounds it to three neighbouring places. -/
def leadingPlace (quanta : Nat) : Int :=
  let estimate := (((bitLength quanta : Int) - 1075) * 30103).fdiv 100000
  if reaches quanta (estimate + 1) then estimate + 1
  else if reaches quanta estimate then estimate
  else estimate - 1

/-- The neighbour of a count of quanta on the grid of the given power of ten that
reads back as the same count; of two such, the nearer, and of two equally near,
the even one. -/
def onGrid? (quanta : Nat) (exponent : Int) : Option Nat :=
  let (numerator, denominator) := decimalQuotient quanta (-exponent)
  let divisor := denominator * one
  let below := numerator / divisor
  let rounded := roundQuotient numerator divisor
  let readsBack (digits : Nat) : Bool := ofDecimal false digits exponent == .finite false quanta
  if readsBack rounded then some rounded
  else
    let other := if rounded = below then below + 1 else below
    if readsBack other then some other else none

def shortestDigits (quanta : Nat) : Nat × Int :=
  let place := leadingPlace quanta
  let grid (length : Nat) : Option (Nat × Int) :=
    let exponent := place - length
    (onGrid? quanta exponent).map fun digits => (digits, exponent)
  ((List.range 17).findSome? grid).getD (quanta, -1074)

/-! ## Layout -/

/-- How shortest digits are laid out: places from `firstPositional` up to but not
including `firstScientific` are written without an exponent, and then always with
a fraction; an exponent always has its sign and at least `exponentDigits` digits. -/
structure Layout where
  firstPositional : Int
  firstScientific : Int
  exponentDigits : Nat

def layout : Layout := ⟨-4, 16, 2⟩

namespace Layout

def positional (digits : List Char) (place : Int) : List Char :=
  if place < 0 then '0' :: '.' :: zeros ((-place).toNat - 1) ++ digits
  else
    let whole := place.toNat + 1
    if digits.length ≤ whole then digits ++ zeros (whole - digits.length) ++ ['.', '0']
    else digits.take whole ++ '.' :: digits.drop whole

def scientific (format : Layout) (digits : List Char) (place : Int) : List Char :=
  let exponent := decimalDigits place.natAbs
  let mantissa := match digits with
    | lead :: next :: rest => lead :: '.' :: next :: rest
    | _ => digits
  mantissa ++ 'e' :: (if place < 0 then '-' else '+') ::
    zeros (format.exponentDigits - exponent.length) ++ exponent

/-- The text of significant digits whose first stands at `place`. -/
def write (format : Layout) (digits : List Char) (place : Int) : List Char :=
  if format.firstPositional ≤ place ∧ place < format.firstScientific then
    positional digits place
  else format.scientific digits place

end Layout

def withoutTrailingZeros (digits : List Char) : List Char :=
  (digits.reverse.dropWhile (· == '0')).reverse

def sign (negative : Bool) : List Char := if negative then ['-'] else []

def shortestText : Binary64 → String
  | .nan _ => "nan"
  | .infinite negative => String.ofList (sign negative ++ ['i', 'n', 'f'])
  | .finite negative quanta =>
      if quanta = 0 then String.ofList (sign negative ++ ['0', '.', '0'])
      else
        let (digits, exponent) := shortestDigits quanta
        let text := decimalDigits digits
        let place := exponent + text.length - 1
        String.ofList (sign negative ++ layout.write (withoutTrailingZeros text) place)

example : (nearest false 1 10).shortestText = "0.1" := by decide +kernel
example : (ofDecimal true 15 (-8)).shortestText = "-1.5e-07" := by decide +kernel
example : (ofDecimal false 1 16).shortestText = "1e+16" := by decide +kernel

/-- The smallest positive double needs one digit. -/
example : (Binary64.finite false 1).shortestText = "5e-324" := by decide +kernel

end Binary64
end Metrology
