/-!
Fractions of two multisets of terms. Terms are counted with a sign, in the order
of their first occurrence, and then written out again on the side that their count
says; what occurs equally often above and below is gone.
-/

namespace Metrology

structure Fraction (α : Type) where
  above : List α
  below : List α
  deriving DecidableEq, Repr, Inhabited

namespace Fraction

variable {α : Type}

def empty : Fraction α := ⟨[], []⟩

def inverse (fraction : Fraction α) : Fraction α := ⟨fraction.below, fraction.above⟩

def times (left right : Fraction α) : Fraction α :=
  ⟨left.above ++ right.above, left.below ++ right.below⟩

def map {β : Type} (convert : α → β) (fraction : Fraction α) : Fraction β :=
  ⟨fraction.above.map convert, fraction.below.map convert⟩

variable [BEq α]

/-- A new term goes to the end. -/
def tally (amount : Int) (counts : List (α × Int)) (term : α) : List (α × Int) :=
  match counts with
  | [] => [(term, amount)]
  | (other, count) :: rest =>
      if other == term then (other, count + amount) :: rest
      else (other, count) :: tally amount rest term

/-- How much more often each term stands above than below. -/
def netCounts (fraction : Fraction α) : List (α × Int) :=
  fraction.below.foldl (tally (-1)) (fraction.above.foldl (tally 1) [])

def expand (counts : List (α × Int)) : List α :=
  counts.flatMap fun (term, count) => List.replicate count.toNat term

def cancel (fraction : Fraction α) : Fraction α :=
  let counts := fraction.netCounts
  ⟨expand counts, expand (counts.map fun (term, count) => (term, -count))⟩

/-- Equal terms come to stand side by side. -/
example : cancel ⟨["x", "y", "x", "w"], ["y", "z"]⟩ = ⟨["x", "x", "w"], ["z"]⟩ := by decide

end Fraction
end Metrology
