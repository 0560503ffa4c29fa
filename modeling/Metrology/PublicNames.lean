import Metrology.Catalogue

/-!
The names that the package and its unit subpackage make public, and those that can
be asked of them besides.
-/

namespace Metrology

inductive PublicValue where
  | text (value : String)
  | names (values : List String)
  /-- Attribute access to the default registry. -/
  | attributes
  /-- A table, by its size. -/
  | mapping (size : Nat)
  deriving DecidableEq, Repr

namespace Package

def version : String := "0.1.0"
def licence : String := "MIT"

def description : Package → String
  | .root =>
      "\nunitpipe: dimensional analysis and unit conversion driven by conversion pipelines.\n\n" ++
      "Units are built algebraically from the SI base units (``METRE.divide(100, \"cm\")``,\n" ++
      "``KELVIN.add(273.15, \"°C\")``) and every unit carries the invertible pipeline that\n" ++
      "maps its magnitudes onto the base unit of its dimension, so conversions between\n" ++
      "any two compatible units come for free. This module exposes a minimal, stable\n" ++
      "public API; the unit catalogue and default registry are imported lazily to avoid\n" ++
      "import-time side effects and circular imports.\n"
  | .units =>
      "\nUnit catalogue, expression parser and symbol registry.\n\n" ++
      "Importing this package is cheap: the catalogue and the shared registry are\n" ++
      "built on first access to one of the names below, e.g. ``from unitpipe.units\n" ++
      "import u`` and then ``u.km``, ``u(\"m/s^2\")``.\n"

/-- The classes and functions of a package that are fetched on first use. -/
def declarations : Package → List String
  | .root => ["Quantity", "Unit", "Dimension", "SymbolicRational", "parse_unit", "UnitsRegistry"]
  | .units => ["parse_unit", "UnitsRegistry", "default_registry"]

def tables : Package → List (String × Nat)
  | .root => []
  | .units =>
      [("SI", Catalogue.standard.international.length),
       ("NON_SI", Catalogue.standard.customary.length)]

def inner : Package → List String
  | .root => ["core", "units", "io"]
  | .units => ["catalog", "parser", "registry"]

/-- The functions and classes with which a package fetches its names. -/
def machinery : Package → List String
  | .root => ["Any", "__getattr__", "__dir__"]
  | .units => ["Any", "__getattr__", "__dir__", "_namespace"]

/-- The name of the table of what is fetched on first use. -/
def fetched : Package → String
  | .root => "_LAZY"
  | .units => "_FORWARDED"

def facts (package : Package) : List (String × PublicValue) :=
  let own : List (String × PublicValue) :=
    match package with
    | .root =>
        [("__version__", .text version), ("__license__", .text licence),
         ("__all__", .names (["__version__", "__license__", "u"] ++ declarations .root))]
    | .units => []
  own ++
    [("__name__", .text package.name), ("__package__", .text package.name),
     ("__doc__", .text package.description),
     (package.fetched, .mapping (package.tables.length + package.declarations.length)),
     ("u", .attributes)]

def entries (package : Package) : List (String × PublicValue) :=
  package.facts ++
    (package.tables.map fun (name, size) => (name, .mapping size)) ++
    ((package.declarations ++ package.machinery).map fun name => (name, .text name)) ++
    package.inner.map fun name => (name, .text (package.name ++ "." ++ name))

def lookup (package : Package) (name : String) : Result PublicValue :=
  (package.entries.lookup name).elim (.error (.noPublicName package name)) .ok

end Package
end Metrology
