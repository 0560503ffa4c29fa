import Metrology.Fault
import Metrology.Number
import Metrology.Number.Reading
import Metrology.Text.Composition

/-!
Tokens of unit expressions such as `kg*m/s^2`: unit names, natural numbers and
five operators. A token keeps the position where it starts in the text.
-/

namespace Metrology

inductive Lexeme where
  | name (value : String)
  | number (value : Nat)
  | times
  | per
  | plus
  | minus
  | power
  deriving DecidableEq, Repr

structure Token where
  lexeme : Lexeme
  position : Nat
  deriving DecidableEq, Repr

namespace Lexeme

def operator? : Char → Option Lexeme
  | '*' => some .times
  | '/' => some .per
  | '+' => some .plus
  | '-' => some .minus
  | '^' => some .power
  | _ => none

end Lexeme

/-! ## Character classes -/

def isSeparator (character : Char) : Bool :=
  character == ' ' || character == '\t' || character == '\r' || character == '\n'

def isNameLetter (character : Char) : Bool :=
  character.isAlpha || ['_', 'Ω', '°', 'Å', '"', '\''].contains character

/-- The composed form, which may be a different character, is to be one name letter. -/
def isNameStart (character : Char) : Bool :=
  match composed [character] with
  | [letter] => isNameLetter letter
  | _ => false

/-- Combining marks continue a name, whatever they compose to. -/
def isNameContinuation (character : Char) : Bool :=
  isNameStart character || isCombining character

/-- The sign of the ohm composes to the letter. -/
example : isNameStart '\u2126' = true ∧ isNameStart 'é' = false := by decide +kernel

end Metrology
