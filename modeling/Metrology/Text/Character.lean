import Metrology.Text.WordData

/-!
Classes of characters, in the reading of Unicode 14, and what is cut from a text by them.
-/

namespace Metrology

/-- Whether a code point lies in one of the ranges, first and last included. -/
def inRanges (ranges : List (Nat × Nat)) (code : Nat) : Bool :=
  ranges.any fun (first, last) => decide (first ≤ code) && decide (code ≤ last)

/-- A scan that goes on behind a run of characters comes to an end. -/
theorem length_dropWhile_lt_length_cons {α : Type} (test : α → Bool) (item : α)
    (items : List α) : (items.dropWhile test).length < (item :: items).length :=
  Nat.lt_succ_of_le (List.dropWhile_sublist test).length_le

/-! ## White space -/

/-- The four ASCII information separators are counted in. -/
def blankRanges : List (Nat × Nat) :=
  [(0x09, 0x0d), (0x1c, 0x20), (0x85, 0x85), (0xa0, 0xa0), (0x1680, 0x1680), (0x2000, 0x200a),
   (0x2028, 0x2029), (0x202f, 0x202f), (0x205f, 0x205f), (0x3000, 0x3000)]

def isBlank (character : Char) : Bool := inRanges blankRanges character.toNat

def stripBlanks (text : List Char) : List Char :=
  ((text.dropWhile isBlank).reverse.dropWhile isBlank).reverse

example : stripBlanks [' ', 'm', ' ', 's', '\u2003', '\n'] = ['m', ' ', 's'] := by decide

/-! ## Decimal digits -/

/-- The zeros of the decimal digits of every script: the other nine follow each of them. -/
def digitZeros : List Nat :=
  [0x30, 0x660, 0x6f0, 0x7c0, 0x966, 0x9e6, 0xa66, 0xae6, 0xb66, 0xbe6, 0xc66,
   0xce6, 0xd66, 0xde6, 0xe50, 0xed0, 0xf20, 0x1040, 0x1090, 0x17e0, 0x1810, 0x1946,
   0x19d0, 0x1a80, 0x1a90, 0x1b50, 0x1bb0, 0x1c40, 0x1c50, 0xa620, 0xa8d0, 0xa900, 0xa9d0,
   0xa9f0, 0xaa50, 0xabf0, 0xff10, 0x104a0, 0x10d30, 0x11066, 0x110f0, 0x11136, 0x111d0, 0x112f0,
   0x11450, 0x114d0, 0x11650, 0x116c0, 0x11730, 0x118e0, 0x11950, 0x11c50, 0x11d50, 0x11da0, 0x16a60,
   0x16ac0, 0x16b50, 0x1d7ce, 0x1d7d8, 0x1d7e2, 0x1d7ec, 0x1d7f6, 0x1e140, 0x1e2f0, 0x1e950, 0x1fbf0]

def isDecimalDigit (character : Char) : Bool :=
  digitZeros.any fun first =>
    decide (first ≤ character.toNat) && decide (character.toNat < first + 10)

example : ['7', '\u0665', '\u0966', '\uff11'].all isDecimalDigit = true := by decide

/-- A superscript two is a digit only in name. -/
example : isDecimalDigit '²' = false := by decide

/-! ## Identifier words -/

namespace Word

def isStart (character : Char) : Bool := inRanges starting character.toNat

def isContinuation (character : Char) : Bool :=
  isStart character || inRanges continuing character.toNat

def isWord (text : String) : Bool :=
  match text.toList with
  | [] => false
  | lead :: rest => isStart lead && rest.all isContinuation

example : ["km", "Ω", "day_1"].all isWord = true := by decide +kernel
example : ["", "1x", "m+", "x²", "foo bar"].any isWord = false := by decide +kernel

end Word
end Metrology
