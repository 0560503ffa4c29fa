import Metrology.Text.Character
import Metrology.Worksheet.Description
import Metrology.Worksheet.Methods

/-!
Attributes of items by any name. Besides its parts and what was assigned to it an
item has its methods, its kind and what can be asked of everything; methods and kinds
are things of their own then, which can be kept and called later.
-/

namespace Metrology

namespace Item

/-- What every item can be asked for. -/
def commonNames : List String :=
  ["__delattr__", "__dir__", "__eq__", "__format__", "__ge__", "__getattribute__",
   "__getstate__", "__gt__", "__hash__", "__init__", "__init_subclass__", "__le__", "__lt__",
   "__ne__", "__new__", "__reduce__", "__reduce_ex__", "__repr__", "__setattr__", "__sizeof__",
   "__str__", "__subclasshook__"]

def accessNames : List String := ["__call__", "__contains__", "__getattr__"]

/-- What an attribute access has that is not asked for. -/
def accessFacts : List String :=
  ["__class__", "__dict__", "__doc__", "__module__", "__weakref__", "_reg"]

def ownKind (item : Item) : Item := .kindOf item.home item.kind

/-- An attribute that does not depend on what an item consists of. -/
def commonAttribute? (item : Item) (name : String) : Option Item :=
  if name == "__class__" then some item.ownKind
  else if name == "__doc__" then item.description?
  else if name == "__module__" && item.home != "builtins" then some (text item.home)
  else if (Sheet.methods item).contains name || commonNames.contains name then
    some (method item name)
  else none

end Item

namespace Sheet

def accessAttribute? (sheet : Sheet) (index : Nat) (name : String) : Option Item :=
  match name with
  | "__weakref__" => some .absent
  | "__dict__" =>
      let own := (Table.get? sheet.own (.attributes index)).getD []
      let entries := ("_reg", sheet.behind index) :: own
      some (.mapping (entries.map fun (name, value) => (.text name, value)))
  | name =>
      if Item.accessNames.contains name then some (.method (.attributes index) name)
      else (Item.attributes index).commonAttribute? name

def getAttribute (sheet : Sheet) (item : Item) (name : String) : Result Item :=
  let common? := match item with
    | .attributes index => sheet.accessAttribute? index name
    | item => item.commonAttribute? name
  match sheet.assigned? item name, common?, item with
  | some value, _, _ => .ok value
  | none, some value, _ => .ok value
  | none, none, .attributes index => sheet.attributeOf index name
  | none, none, item =>
      match sheet.part name item with
      | .error _ => .error (.noAttribute name)
      | found => found

/-- The names of an attribute access that a container holds, in alphabetical order. -/
def attributeNames (sheet : Sheet) (index : Nat) (container : Item) : Result (List String) := do
  let symbols ← (← sheet.members (sheet.behind index)).mapM fun symbol =>
    symbol.toText?.elim (.error .noSuchPart) .ok
  let own := ((Table.get? sheet.own (.attributes index)).getD []).keys
  let names := own ++ Item.commonNames ++ Item.accessNames ++ Item.accessFacts ++
    symbols.filter Word.isWord
  (orderNames names.eraseDups).filterM fun name => sheet.isIn (.text name) container

end Sheet
end Metrology
