import Metrology.Text.CompositionData

/-!
Canonical composition. A text is first taken apart into base characters and
marks, the marks of one base are put into the order of their combining classes,
and then every base takes up the marks it has a composite with. Texts that
differ only in how accents are spelled get one form.
-/

namespace Metrology.Composition

/-! ## Combining classes -/

/-- No class is given below the first combining mark, U+0300. -/
def combiningClass (code : Nat) : Nat :=
  if code < 0x300 then 0
  else
    match combiningClasses.find? fun (first, last, _) => first ≤ code && code ≤ last with
    | some (_, _, value) => value
    | none => 0

/-! ## Hangul syllables -/

namespace Hangul

def syllables : Nat := 0xac00
def leads : Nat := 0x1100
def vowels : Nat := 0x1161
/-- One less than the first trailing consonant, so that zero means none. -/
def trails : Nat := 0x11a7
def leadCount : Nat := 19
def vowelCount : Nat := 21
def trailCount : Nat := 28
def syllableCount : Nat := leadCount * vowelCount * trailCount

def isSyllable (code : Nat) : Bool :=
  decide (syllables ≤ code) && decide (code < syllables + syllableCount)

def decompose (code : Nat) : List Nat :=
  let index := code - syllables
  let lead := leads + index / (vowelCount * trailCount)
  let vowel := vowels + index % (vowelCount * trailCount) / trailCount
  let trail := index % trailCount
  if trail = 0 then [lead, vowel] else [lead, vowel, trails + trail]

def compose? (first second : Nat) : Option Nat :=
  if leads ≤ first ∧ first < leads + leadCount ∧
      vowels ≤ second ∧ second < vowels + vowelCount then
    some (syllables + ((first - leads) * vowelCount + (second - vowels)) * trailCount)
  else if isSyllable first ∧ (first - syllables) % trailCount = 0 ∧
      trails < second ∧ second < trails + trailCount then
    some (first + (second - trails))
  else none

end Hangul

/-! ## Taking apart -/

/-- Not every pair composes back. -/
def pair? (code : Nat) : Option (Nat × Nat) :=
  ((composites ++ splitOnly).find? fun (composite, _, _) => composite == code).map (·.2)

def singleton? (code : Nat) : Option Nat :=
  ((variants ++ ideographs ++ supplementaryIdeographs).find? fun (variant, _) =>
    variant == code).map (·.2)

/-- Nothing below U+00C0 comes apart. -/
def decomposeWithin : Nat → Nat → List Nat
  | 0, code => [code]
  | depth + 1, code =>
      if code < 0xc0 then [code]
      else if Hangul.isSyllable code then Hangul.decompose code
      else
        match singleton? code with
        | some other => decomposeWithin depth other
        | none =>
            match pair? code with
            | some (first, second) => decomposeWithin depth first ++ [second]
            | none => [code]

/-- No decomposition nests deeper than three. -/
def decompose (code : Nat) : List Nat := decomposeWithin 3 code

/-! ## Ordering the marks -/

/-- Put a code point behind everything that has no greater class, looking back no
further than the last base; `reversed` is the text before it, last first. -/
def insertMark (code : Nat) : List Nat → List Nat
  | [] => [code]
  | last :: reversed =>
      if combiningClass code ≠ 0 ∧ combiningClass code < combiningClass last then
        last :: insertMark code reversed
      else code :: last :: reversed

/-- Marks of one class keep their order. -/
def orderMarks (codes : List Nat) : List Nat :=
  (codes.foldl (fun reversed code => insertMark code reversed) []).reverse

/-! ## Putting together -/

/-- Nothing below U+0300 is taken up. -/
def composite? (first second : Nat) : Option Nat :=
  if second < 0x300 then none
  else
    match Hangul.compose? first second with
    | some syllable => some syllable
    | none =>
        (composites.find? fun (_, base, mark) => base == first && mark == second).map (·.1)

/-- Let a base take up what follows it. `marks` are those that stayed behind it,
last first; one of them blocks every later character whose class is not greater. -/
def recompose (base : Nat) (marks : List Nat) : List Nat → List Nat
  | [] => base :: marks.reverse
  | code :: rest =>
      let reachable := match marks with
        | [] => true
        | last :: _ => decide (combiningClass last < combiningClass code)
      match if reachable then composite? base code else none with
      | some composite => recompose composite marks rest
      | none =>
          if combiningClass code = 0 then base :: marks.reverse ++ recompose code [] rest
          else recompose base (code :: marks) rest

/-- Marks before the first base stay as they are. -/
def recomposeAll : List Nat → List Nat
  | [] => []
  | code :: rest =>
      if combiningClass code = 0 then recompose code [] rest else code :: recomposeAll rest

def composeCodes (codes : List Nat) : List Nat :=
  recomposeAll (orderMarks (codes.flatMap decompose))

end Composition

def composed (text : List Char) : List Char :=
  (Composition.composeCodes (text.map Char.toNat)).map Char.ofNat

def isCombining (character : Char) : Bool :=
  Composition.combiningClass character.toNat != 0

/-- A ring above joins its letter, and the sign for the unit is the letter itself. -/
example : composed ['A', '\u030a'] = ['Å'] ∧ composed ['\u212b'] = ['Å'] := by decide +kernel

example : composed ['a', '\u0301', '\u0323'] = composed ['a', '\u0323', '\u0301'] := by
  decide +kernel

example : composed ['\u1112', '\u1161', '\u11ab'] = ['한'] := by decide +kernel

end Metrology
