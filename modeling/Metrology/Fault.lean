import Metrology.Text.Quoted

/-!
What can go wrong. A fault is a cause; the wording of the library's own
diagnostics is in `Fault.message?` alone. Faults of plain arithmetic and of calls
with operands of the wrong kind have no wording of their own.
-/

namespace Metrology

/-- The fields of a finished unit or step cannot be assigned, nor anything of a
ratio or dimension. -/
inductive Immutable where
  | ratio
  | dimension
  deriving DecidableEq, Repr

/-- The two places from which public names are fetched. -/
inductive Package where
  | root
  | units
  deriving DecidableEq, Repr

inductive Fault where
  | divisionByZero
  /-- A result has no finite double, or a count is out of range. -/
  | overflow
  /-- An integer has more decimal digits than are read or written. -/
  | tooManyDigits
  /-- A number that is not a number has no integer part. -/
  | notANumber
  /-- The count of decimal places is not a natural number. -/
  | badPlaces
  | notFound
  | notInvertible
  /-- A substitution would go on for ever. -/
  | endless
  | outOfMemory
  /-- Things are nested too deeply to be computed with. -/
  | tooDeep
  /-- The operands are of kinds that the operation does not take. -/
  | unsupported
  /-- The value does not have what was asked of it. -/
  | noSuchPart
  | fixedField
  /-- A name stands for nothing. -/
  | unknownName
  /-- A register is read that nothing was put into. -/
  | emptyRegister (name : String)
  | incompatible (left right : String)
  | incomparable (leftDimension rightDimension left right : String)
  /-- A unit power that is not an integer of at least one; `shown` is what was given. -/
  | unitPower (shown : String)
  | expressionPower (shown : String)
  | unknownSymbol (symbol : String)
  | unknownAliasSource (symbol : String)
  | symbolTaken (symbol : String)
  | transformTaken (name : String)
  /-- No token starts with this piece of the text. -/
  | badToken (piece : String) (position : Nat)
  /-- The tokens are no unit expression from this position on. -/
  | malformed (position : Nat)
  | scaleKind (kind : String)
  | unitKind (kind : String)
  | notReciprocal (dividend unit : String)
  | exponentKind (kind : String)
  | modularPower
  | immutable (what : Immutable)
  | noAttribute (name : String)
  | noPublicName (package : Package) (name : String)
  deriving DecidableEq, Repr

def Immutable.name : Immutable → String
  | .ratio => "SymbolicRational"
  | .dimension => "Dimension"

def Package.name : Package → String
  | .root => "unitpipe"
  | .units => "unitpipe.units"

namespace Fault

def message? : Fault → Option String
  | incompatible left right => some s!"{left} is not compatible with {right}"
  | incomparable leftDimension rightDimension _ _ =>
      some ("Cannot equate quantities of units in incompatible dimensions (" ++
        leftDimension ++ ", " ++ rightDimension ++ ")")
  | unitPower shown => some s!"Power must be an integer >= 1, got {shown}"
  | expressionPower shown => some s!"Unit exponents must be integers >= 1, got {shown}"
  | unknownSymbol symbol => some s!"Unknown unit symbol: {symbol}"
  | unknownAliasSource symbol =>
      some ("Symbol \"" ++ symbol ++ "\" is not associated with any unit")
  | symbolTaken symbol => some ("Unit \"" ++ symbol ++ "\" already registered")
  | transformTaken name => some ("Transformation \"" ++ name ++ "\" already registered")
  | badToken piece position => some ("Invalid token " ++ quoted piece ++ s!" at {position}")
  | malformed position => some s!"Malformed expression at {position}"
  | scaleKind kind => some s!"operand must be a Unit or a number, got {kind}"
  | unitKind kind => some s!"unit must be a Unit, got {kind}"
  | notReciprocal dividend unit =>
      some ("Invalid operation: cannot divide " ++ dividend ++ " by a Unit (" ++ unit ++
        "). Only 1/unit (reciprocal) is supported.")
  | exponentKind kind => some s!"Exponent must be int, got {kind}"
  | modularPower => some "Modulo exponentiation is not supported for Dimension."
  | immutable what => some s!"{what.name} is immutable"
  | emptyRegister name | noAttribute name => some name
  | noPublicName package name =>
      some s!"module {quoted package.name} has no attribute {quoted name}"
  | _ => none

/-- Whether a value was of the right kind but refused for what it is. -/
def isRefusal : Fault → Bool
  | tooManyDigits | notANumber | badPlaces | notFound | notInvertible => true
  | unitPower _ | expressionPower _ => true
  | unknownSymbol _ | unknownAliasSource _ | symbolTaken _ | transformTaken _ => true
  | badToken .. | malformed _ => true
  | _ => false

def position? : Fault → Option Nat
  | badToken _ position => some position
  | malformed position => some position
  | _ => none

def units? : Fault → Option (String × String)
  | incompatible left right => some (left, right)
  | incomparable _ _ left right => some (left, right)
  | _ => none

end Fault

/-- A result, or the fault that kept it from being reached. -/
abbrev Result (α : Type) : Type := Except Fault α

namespace Result

variable {α β : Type}

@[simp] theorem ok_bind (value : α) (next : α → Result β) :
    ((.ok value : Result α) >>= next) = next value := rfl

@[simp] theorem error_bind (fault : Fault) (next : α → Result β) :
    ((.error fault : Result α) >>= next) = .error fault := rfl

@[simp] theorem bind_ok (first : Result α) : (first >>= fun value => .ok value) = first :=
  bind_pure first

@[simp] theorem pure_eq (value : α) : (pure value : Result α) = .ok value := rfl

theorem bind_eq_ok {first : Result α} {next : α → Result β} {result : β} :
    (first >>= next) = .ok result ↔ ∃ value, first = .ok value ∧ next value = .ok result := by
  cases first with
  | ok value => simp
  | error fault => simp

end Result

/-- Results of comparable values can be compared, so that examples evaluate. -/
instance decidableEqResult {ε α : Type} [DecidableEq ε] [DecidableEq α] :
    DecidableEq (Except ε α)
  | .ok left, .ok right =>
      if equal : left = right then .isTrue (by rw [equal])
      else .isFalse fun same => equal (Except.ok.inj same)
  | .error left, .error right =>
      if equal : left = right then .isTrue (by rw [equal])
      else .isFalse fun same => equal (Except.error.inj same)
  | .ok _, .error _ => .isFalse nofun
  | .error _, .ok _ => .isFalse nofun

end Metrology
