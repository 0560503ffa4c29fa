import Metrology.Fault

/-!
Repeating a text or a row of members. A count below one leaves nothing; a count that
is no index is refused before anything else, and a result that would not fit into
memory is never begun.
-/

namespace Metrology.Repetition

def indexBound : Nat := Nat.pow 2 63

/-- The first size in octets for which there is no memory. -/
def memoryBound : Nat := Nat.pow 2 36

def times (count : Int) : Result Nat :=
  if indexBound ≤ count ∨ count < -(indexBound : Int) then .error .overflow
  else .ok count.toNat

def textTimes (content : String) (count : Nat) : String :=
  if count = 0 then ""
  else
    let half := textTimes content (count / 2)
    if count % 2 = 0 then half ++ half else half ++ half ++ content
termination_by count
decreasing_by omega

/-- A text takes at least one octet for a character. -/
def ofText (content : String) (count : Int) : Result String := do
  let times ← times count
  let length := content.length * times
  if times ≤ 1 then return textTimes content times
  else if indexBound ≤ length then throw .overflow
  else if memoryBound ≤ length then throw .outOfMemory
  else return textTimes content times

/-- A member takes eight octets. -/
def ofMembers {α : Type} (members : List α) (count : Int) : Result (List α) := do
  let times ← times count
  if times = 0 ∨ members.isEmpty then return []
  else if memoryBound ≤ 8 * (members.length * times) then throw .outOfMemory
  else return (List.replicate times members).flatten

example : ofText "ab" 3 = .ok "ababab" := by decide +kernel
example : ofMembers [1, 2] (-4) = .ok [] := by decide +kernel
example : ofMembers ([] : List Nat) (Nat.pow 2 63 - 1) = .ok [] := by decide +kernel
example : ofText "" (Nat.pow 2 63) = .error .overflow := by decide +kernel

end Metrology.Repetition
