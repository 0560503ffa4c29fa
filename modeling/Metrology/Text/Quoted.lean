import Metrology.Text.Character
import Metrology.Text.PrintableData

/-!
Quoted texts, as diagnostics show them: between single quotes, or between double quotes
where that saves an escape, with a code point for what has no visible form.
-/

namespace Metrology

def isPrintable (character : Char) : Bool :=
  if character.toNat < 0x7f then decide (0x20 ≤ character.toNat)
  else !inRanges Printable.invisible character.toNat

namespace Quoted

/-- With at least `width` digits. -/
def hexadecimal (width value : Nat) : List Char :=
  let digits := Nat.toDigits 16 value
  List.replicate (width - digits.length) '0' ++ digits

/-- The escape of a character by its code point: two, four or eight digits. -/
def escapeCode (code : Nat) : List Char :=
  if code < 0x100 then '\\' :: 'x' :: hexadecimal 2 code
  else if code < 0x10000 then '\\' :: 'u' :: hexadecimal 4 code
  else '\\' :: 'U' :: hexadecimal 8 code

def encodeCharacter (quote character : Char) : List Char :=
  if character = quote ∨ character = '\\' then ['\\', character]
  else if character = '\n' then ['\\', 'n']
  else if character = '\r' then ['\\', 'r']
  else if character = '\t' then ['\\', 't']
  else if isPrintable character then [character]
  else escapeCode character.toNat

/-- Double quotes only for a text with a single quote and no double one. -/
def chooseQuote (text : List Char) : Char :=
  if text.contains '\'' && !text.contains '"' then '"' else '\''

end Quoted

def quoted (text : String) : String :=
  let characters := text.toList
  let quote := Quoted.chooseQuote characters
  String.ofList (quote :: characters.flatMap (Quoted.encodeCharacter quote) ++ [quote])

example : quoted "km/h" = "'km/h'" := by decide +kernel
example : quoted "it's" = "\"it's\"" := by decide +kernel
example : quoted "\u00a0\n" = "'\\xa0\\n'" := by decide +kernel

end Metrology
