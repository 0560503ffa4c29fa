import Metrology.Arithmetic

/-!
Elementary steps of a conversion: an action on a magnitude together with the
action that takes it back, under a label that shows the first of the two. What an
action is stays open; the four operations with a constant and the change of sign
are the ones that units and their users are given.
-/

namespace Metrology

class Acts (φ α : Type) where
  act : φ → α → Result α

/-! ## Steps -/

structure Step (φ : Type) where
  forward : φ
  backward : φ
  label : String
  deriving DecidableEq, Repr

namespace Step

variable {φ α : Type}

def apply [Acts φ α] (step : Step φ) (value : α) : Result α := Acts.act step.forward value

def unapply [Acts φ α] (step : Step φ) (value : α) : Result α := Acts.act step.backward value

/-- A leading sign turns into its opposite. -/
def invertLabel (label : String) : String :=
  match label.toList with
  | '+' :: rest => String.ofList ('-' :: rest)
  | '-' :: rest => String.ofList ('+' :: rest)
  | '*' :: rest => String.ofList ('/' :: rest)
  | '/' :: rest => String.ofList ('*' :: rest)
  | _ => label

def inverse (step : Step φ) : Step φ := ⟨step.backward, step.forward, invertLabel step.label⟩

def shownLabel (step : Step φ) : String := if step.label.isEmpty then "?" else step.label

def map {ψ : Type} (convert : φ → ψ) (step : Step φ) : Step ψ :=
  ⟨convert step.forward, convert step.backward, step.label⟩

end Step

/-! ## Actions -/

inductive Action (κ : Type) where
  | plus (constant : κ)
  | minus (constant : κ)
  | times (constant : κ)
  | dividedBy (constant : κ)
  | negation
  deriving DecidableEq, Repr

namespace Action

variable {κ α : Type}

/-- The result of an action, where `denote` says which magnitude a constant is. -/
def act [Arithmetic α] (denote : κ → Result α) (value : α) : Action κ → Result α
  | plus constant => do Arithmetic.add value (← denote constant)
  | minus constant => do Arithmetic.sub value (← denote constant)
  | times constant => do Arithmetic.mul value (← denote constant)
  | dividedBy constant => do Arithmetic.div value (← denote constant)
  | negation => Arithmetic.neg value

def map {μ : Type} (convert : κ → μ) : Action κ → Action μ
  | plus constant => .plus (convert constant)
  | minus constant => .minus (convert constant)
  | times constant => .times (convert constant)
  | dividedBy constant => .dividedBy (convert constant)
  | negation => .negation

instance [Arithmetic α] : Acts (Action Number) α where
  act action value := action.act Arithmetic.constant value

end Action

/-! ## The four operations

A label holds the text of the constant. -/

namespace Step

variable {κ : Type}

def add (constant : κ) (text : String) : Step (Action κ) :=
  ⟨.plus constant, .minus constant, "+" ++ text⟩

def subtract (constant : κ) (text : String) : Step (Action κ) := (add constant text).inverse

def multiply (constant : κ) (text : String) : Step (Action κ) :=
  ⟨.times constant, .dividedBy constant, "*" ++ text⟩

def divide (constant : κ) (text : String) : Step (Action κ) := (multiply constant text).inverse

def negate (label : String) : Step (Action κ) := ⟨.negation, .negation, label⟩

example : (subtract (3 : Number) "3").label = "-3" := by decide +kernel

end Step
end Metrology
