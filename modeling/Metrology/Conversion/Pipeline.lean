import Metrology.Conversion.Step

/-!
Pipelines: steps in the order in which they convert a magnitude into its base
unit. Run backwards they convert from the base unit.
-/

namespace Metrology

structure Pipeline (φ : Type) where
  steps : List (Step φ)
  deriving DecidableEq, Repr

namespace Pipeline

variable {φ α : Type}

def identity : Pipeline φ := ⟨[]⟩

def isIdentity (pipeline : Pipeline φ) : Bool := pipeline.steps.isEmpty

/-- The first fault ends the run. -/
def apply [Acts φ α] (pipeline : Pipeline φ) (value : α) : Result α :=
  pipeline.steps.foldlM (fun current step => step.apply current) value

def unapply [Acts φ α] (pipeline : Pipeline φ) (value : α) : Result α :=
  pipeline.steps.reverse.foldlM (fun current step => step.unapply current) value

def push (pipeline : Pipeline φ) (step : Step φ) : Pipeline φ := ⟨pipeline.steps ++ [step]⟩

def concat (first second : Pipeline φ) : Pipeline φ := ⟨first.steps ++ second.steps⟩

/-- The pipeline that applies what this one takes back. -/
def inverse (pipeline : Pipeline φ) : Pipeline φ := ⟨pipeline.steps.reverse.map Step.inverse⟩

def labels (pipeline : Pipeline φ) : List String := pipeline.steps.map Step.label

def shown (pipeline : Pipeline φ) : String :=
  "ConversionPipeline(" ++ String.intercalate " " (pipeline.steps.map Step.shownLabel) ++ ")"

def map {ψ : Type} (convert : φ → ψ) (pipeline : Pipeline φ) : Pipeline ψ :=
  ⟨pipeline.steps.map (Step.map convert)⟩

end Pipeline
end Metrology
