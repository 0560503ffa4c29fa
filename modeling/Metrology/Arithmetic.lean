import Metrology.Number.Power

/-!
What magnitudes are computed in. Conversions and quantities are written once, for
any type of magnitude: at `Number` they round as the running program does, at `Rat`
they read every constant as the exact number it denotes and never round.
-/

namespace Metrology

class Arithmetic (α : Type) where
  constant : Number → Result α
  add : α → α → Result α
  sub : α → α → Result α
  mul : α → α → Result α
  div : α → α → Result α
  neg : α → Result α
  equals : α → α → Result Bool
  compares : Comparison → α → α → Result Bool

class Decimal (α : Type) where
  floor : α → Result Int
  /-- Without places, to the nearest integer. -/
  round : Option Int → α → Result Number
  /-- Integral doubles are written as integers. -/
  compactText : α → Result String
  shown : α → Result String
  plainText : α → Result String

/-! ## Running numbers -/

instance : Arithmetic Number where
  constant := .ok
  add := Number.add
  sub := Number.sub
  mul := Number.mul
  div := Number.div
  neg value := .ok value.neg
  equals left right := .ok (left.equals right)
  compares comparison left right := .ok (left.compares comparison right)

instance : Decimal Number where
  floor := Number.floor
  round places value :=
    match places with
    | some places => value.round places
    | none => return .int (← value.roundToInteger)
  compactText := Number.compactText
  shown := Number.text
  plainText := Number.text

/-! ## Exact numbers -/

def Number.exact? : Number → Option Rat
  | .int value => some value
  | .float value => value.quanta?.map fun quanta => mkRat quanta Binary64.one

def Number.exact (number : Number) : Result Rat :=
  number.exact?.elim (.error .notANumber) .ok

instance : Arithmetic Rat where
  constant := Number.exact
  add left right := .ok (left + right)
  sub left right := .ok (left - right)
  mul left right := .ok (left * right)
  div left right := if right = 0 then .error .divisionByZero else .ok (left / right)
  neg value := .ok (-value)
  equals left right := .ok (decide (left = right))
  compares comparison left right := .ok (comparison.holds (compareOfLessAndEq left right))

/-- Exactly read, a tenth is the double nearest to it and not one tenth. -/
example : (Number.float (.nearest false 1 10)).exact ≠ .ok (1 / 10) := by decide +kernel

end Metrology
