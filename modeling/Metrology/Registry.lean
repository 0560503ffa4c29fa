import Metrology.Catalogue
import Metrology.Expression.Evaluation
import Metrology.Table
import Metrology.Text.Character

/-!
Registries bind symbols to units. A registry starts with the catalogue or empty;
users register units of their own under symbols that are free, and alias symbols
to units that are bound. Symbols are compared without outer white space and in
canonical composition.

What serves as a symbol (`κ`) and what is bound (`υ`) are open. With texts and
standard units a registry is a `UnitRegistry`.
-/

namespace Metrology

def normalizeSymbol (symbol : String) : String :=
  String.ofList (composed (stripBlanks symbol.toList))

example : normalizeSymbol " A\u030a\n" = "Å" := by decide +kernel

class Symbol (κ : Type) where
  ofText : String → κ
  normalize : κ → Result κ
  /-- The text in diagnostics. -/
  text : κ → Result String

instance textSymbol : Symbol String where
  ofText := id
  normalize symbol := .ok (normalizeSymbol symbol)
  text := .ok

class Bindable (υ : Type) where
  symbol : υ → Result String
  /-- Whether something bound is there to be found. -/
  isPresent : υ → Bool

instance {δ ν : Type} : Bindable (MeasurementUnit δ ν) where
  symbol unit := .ok unit.symbol
  isPresent _ := true

structure Registry (κ υ : Type) where
  bound : Table κ υ
  user : Table κ υ

abbrev UnitRegistry : Type := Registry String StandardUnit

namespace Registry

variable {κ υ : Type}

def empty : Registry κ υ := ⟨[], []⟩

def symbols (registry : Registry κ υ) : List κ := registry.bound.keys

variable [BEq κ] [Symbol κ]

/-! ## Contents at the start -/

def bindOwn (bindUnit : StandardUnit → υ) (table : Table κ υ) (unit : StandardUnit) : Table κ υ :=
  table.put (Symbol.ofText (normalizeSymbol unit.symbol)) (bindUnit unit)

/-- Several names of the catalogue may share one symbol; the last of them is bound. -/
def ofCatalogue (bindUnit : StandardUnit → υ) : Registry κ υ :=
  ⟨(Catalogue.standard.entries.map (·.2)).foldl (bindOwn bindUnit) [], []⟩

def populated : UnitRegistry := ofCatalogue id

/-! ## Reading -/

section Reading

variable [Bindable υ]

def bound? (registry : Registry κ υ) (key : κ) : Option υ :=
  (registry.bound.get? key).filter Bindable.isPresent

def lookup (registry : Registry κ υ) (symbol : κ) : Result (Option υ) := do
  return registry.bound? (← Symbol.normalize symbol)

def find? (registry : Registry κ υ) (symbol : String) : Option υ :=
  registry.bound? (Symbol.ofText (normalizeSymbol symbol))

def contains (registry : Registry κ υ) (symbol : String) : Bool := (registry.find? symbol).isSome

def require (registry : Registry κ υ) (symbol : κ) : Result υ := do
  match ← registry.lookup symbol with
  | some unit => return unit
  | none => throw (.unknownSymbol (← Symbol.text symbol))

variable [Composable υ]

def parse (registry : Registry κ υ) (text : String) : Result υ := evaluateText registry.find? text

def operators : List Char := ['*', '/', '^']

def isComposed (symbol : String) : Bool := symbol.toList.any operators.contains

/-- An expression is evaluated, anything else must be bound. -/
def get (registry : Registry κ υ) (symbol : String) : Result υ :=
  if isComposed symbol then registry.parse symbol else registry.require (Symbol.ofText symbol)

/-- A name that is refused is a missing one. -/
def byAttribute (registry : Registry κ υ) (name : String) : Result υ :=
  match registry.get name with
  | .error fault => .error (if fault.isRefusal then .noAttribute name else fault)
  | found => found

end Reading

/-! ## Changing -/

def register [Bindable υ] (registry : Registry κ υ) (unit : υ) : Result (Registry κ υ) := do
  let symbol := normalizeSymbol (← Bindable.symbol unit)
  let key : κ := Symbol.ofText symbol
  if registry.bound.contains key then throw (.symbolTaken symbol)
  else return ⟨registry.bound.put key unit, registry.user.put key unit⟩

/-- What the new symbol was bound to before does not matter. -/
def addAlias (registry : Registry κ υ) (existing new : κ) : Result (Registry κ υ) := do
  match registry.bound.get? (← Symbol.normalize existing) with
  | some unit => return { registry with bound := registry.bound.put (← Symbol.normalize new) unit }
  | none => throw (.unknownAliasSource (← Symbol.text existing))

def restore (bindUnit : StandardUnit → υ) (_ : Registry κ υ) : Registry κ υ := ofCatalogue bindUnit

end Registry
end Metrology
