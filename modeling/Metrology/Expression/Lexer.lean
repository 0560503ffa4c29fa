import Metrology.Expression.Token
import Metrology.Text.Character

/-!
Splitting a text into tokens, from left to right. A name or a number takes in as
many characters as it can; positions count the characters of the text as given,
while the value of a name is composed.
-/

namespace Metrology

namespace Lexer

/-- The value of a run of digits, unless it is too long to be read. -/
def readNumber (digits : List Char) : Result Nat :=
  if digitLimit < digits.length then .error .tooManyDigits else .ok (ofDecimalDigits digits)

/-- The tokens of a text that starts at `position`; the first fault wins. -/
def scan (position : Nat) : List Char → Result (List Token)
  | [] => .ok []
  | character :: rest =>
      if isSeparator character then scan (position + 1) rest
      else
        match Lexeme.operator? character with
        | some operator => do return ⟨operator, position⟩ :: (← scan (position + 1) rest)
        | none =>
            if isNameStart character then do
              let span := character :: rest.takeWhile isNameContinuation
              let name := String.ofList (composed span)
              return ⟨.name name, position⟩ ::
                (← scan (position + span.length) (rest.dropWhile isNameContinuation))
            else if isAsciiDigit character then do
              let digits := character :: rest.takeWhile isAsciiDigit
              let value ← readNumber digits
              return ⟨.number value, position⟩ ::
                (← scan (position + digits.length) (rest.dropWhile isAsciiDigit))
            else .error (.badToken (String.singleton character) position)
termination_by text => text.length
decreasing_by
  · exact Nat.lt_succ_self _
  · exact Nat.lt_succ_self _
  · exact length_dropWhile_lt_length_cons ..
  · exact length_dropWhile_lt_length_cons ..

end Lexer

def tokenize (text : String) : Result (List Token) := Lexer.scan 0 text.toList

example : tokenize "m / s^2" =
    .ok [⟨.name "m", 0⟩, ⟨.per, 2⟩, ⟨.name "s", 4⟩, ⟨.power, 5⟩, ⟨.number 2, 6⟩] := by
  decide +kernel

example : tokenize "m·s" = .error (.badToken "·" 1) := by decide +kernel

end Metrology
