import Widgetry.Menu

/-! Initialisation records: what a script does for one instance. -/

namespace Widgetry.Script

/-- An expression read from an attribute. -/
inductive Argument where
  | constant (space member : String)
  | text (value : String)
  deriving DecidableEq

def Argument.code : Argument → String
  | constant space member => space ++ "." ++ member
  | text value => Text.literal value

structure Record where
  /-- The member of the component that holds the instance. -/
  name : String
  className : String
  /-- The constructor arguments; nothing for an instance that exists already. -/
  construction : Option (List Argument)
  assignments : List (String × Argument)
  /-- The program that fills a menu. -/
  menu : List Menu.Line
  deriving DecidableEq

namespace Record

/-- The data field that the record needs: instances that exist already have none. -/
def dataField? (d : Record) : Option String := d.construction.map fun _ => d.name

/-- A comment, the construction, the assignments and the menu. -/
def code (d : Record) : String :=
  "// Init " ++ d.name ++ ": " ++ d.className ++ ".\n" ++
    (match d.construction with
      | some arguments => construct d.name d.className (arguments.map Argument.code)
      | none => "") ++
    String.join (d.assignments.map fun (key, value) => assign d.name key value.code) ++
    Menu.render d.menu

end Record

end Widgetry.Script
