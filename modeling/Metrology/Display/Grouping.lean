import Metrology.Fault
import Metrology.Text.Character

/-!
Digit grouping. One step splits the last group off the first run of digits that is
longer than a group. A separator goes into the very text that is searched, so one with
digits of its own may keep the search going for ever.
-/

namespace Metrology.Grouping

def splitRun (size : Nat) (separator run : List Char) : List Char :=
  run.take (run.length - size) ++ separator ++ run.drop (run.length - size)

/-- Nothing when every run of digits fits into a group. -/
def step? (size : Nat) (separator : List Char) : List Char → Option (List Char)
  | [] => none
  | character :: rest =>
      if isDecimalDigit character then
        let run := character :: rest.takeWhile isDecimalDigit
        let after := rest.dropWhile isDecimalDigit
        if size < run.length then some (splitRun size separator run ++ after)
        else (step? size separator after).map (run ++ ·)
      else (step? size separator rest).map (character :: ·)
termination_by text => text.length
decreasing_by
  · exact length_dropWhile_lt_length_cons ..
  · exact Nat.lt_succ_self _

def groupWithin (size : Nat) (separator : List Char) : Nat → List Char → Result (List Char)
  | limit, text =>
      match step? size separator text with
      | none => .ok text
      | some next =>
          match limit with
          | 0 => .error .endless
          | limit + 1 => groupWithin size separator limit next

/-- When grouping ends at all, every step shortens a run that the text has, so it ends
within as many steps as the text is long. -/
def group (size : Nat) (separator text : List Char) : Result (List Char) :=
  groupWithin size separator text.length text

example : group 3 [','] ['1', '2', '3', '4', '5', '6', '7', 'm'] =
    .ok ['1', ',', '2', '3', '4', ',', '5', '6', '7', 'm'] := by decide +kernel

example : group 3 ['0'] ['1', '2', '3', '4'] = .error .endless := by decide +kernel

end Metrology.Grouping
