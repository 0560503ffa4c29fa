import Metrology.Display.Transform

/-!
Converters: chains of display transforms, and the table of named transforms from
which they are put together. Users add transforms under names that are free.
-/

namespace Metrology

structure Converter (μ : Type) where
  transforms : List μ

namespace Converter

variable {μ α : Type}

def push (converter : Converter μ) (transform : μ) : Converter μ :=
  ⟨converter.transforms ++ [transform]⟩

def concat (first second : Converter μ) : Converter μ := ⟨first.transforms ++ second.transforms⟩

/-- What comes out at the end of the chain, each link applied to what came out of the
one before. -/
def run (apply : μ → α → Result α) (converter : Converter μ) (start : α) : Result α :=
  converter.transforms.foldlM (fun current transform => apply transform current) start

def apply [Arithmetic α] [Decimal α] (converter : Converter (Transform α)) (value : α) :
    Result String := do
  (← converter.run Transform.apply (Intermediate.ofValue value)).text

end Converter

/-! ## Named transforms -/

inductive TransformKind where
  | divideBy
  | multiplyBy
  | roundTo
  | leadWith
  | endWith
  | groupDigits
  | shout
  deriving DecidableEq, Repr

def builtinTransforms : List (String × TransformKind) :=
  [("divide_by", .divideBy), ("multiply_by", .multiplyBy), ("round_to", .roundTo),
   ("prefix_with", .leadWith), ("suffix_with", .endWith), ("group_digits_by", .groupDigits)]

example :
    (do
      let groups ← Transform.groupingDigits (3 : Number) (some ",")
      Converter.apply ⟨[.roundTo (some 2) 100 false, groups, .multiplyBy 2]⟩
        (.float (.ofDecimal false 1234567891 (-3)) : Number)) = .ok "2469135.78" := by
  decide +kernel

example :
    (do
      let groups ← Transform.groupingDigits (3 : Number) (some ",")
      Converter.apply ⟨[.roundTo (some 2) 100 false, groups]⟩
        (.float (.ofDecimal false 1234567891 (-3)) : Number)) = .ok "1,234,567.89" := by
  decide +kernel

end Metrology
