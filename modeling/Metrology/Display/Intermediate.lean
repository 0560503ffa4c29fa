import Metrology.Arithmetic
import Metrology.Text.Quoted

/-!
A value on its way through a display: the magnitude, and the text it is to be
shown as once a transform has fixed one.
-/

namespace Metrology

structure Intermediate (α : Type) where
  value : α
  text? : Option String
  deriving DecidableEq, Repr

namespace Intermediate

variable {α : Type}

def ofValue (value : α) : Intermediate α := ⟨value, none⟩

/-- The fixed text, or else the compact text of the value. -/
def text [Decimal α] (intermediate : Intermediate α) : Result String :=
  match intermediate.text? with
  | some text => .ok text
  | none => Decimal.compactText intermediate.value

def shown (magnitude : String) (intermediate : Intermediate α) : String :=
  let text := match intermediate.text? with
    | some text => quoted text
    | none => "None"
  "Intermediate(value=" ++ magnitude ++ ", text=" ++ text ++ ")"

end Intermediate
end Metrology
