/-! Statements of generated scripts. Each is one line. -/

namespace Widgetry.Script

/-- A new object of a class. -/
def creation (className : String) (arguments : List String) : String :=
  "new " ++ className ++ "(" ++ String.intercalate ", " arguments ++ ")"

/-- Sets a member of the component to a new object. -/
def construct (name className : String) (arguments : List String) : String :=
  "this." ++ name ++ " = " ++ creation className arguments ++ ";\n"

/-- Declares a variable with a new object. -/
def declare (name className : String) (arguments : List String) : String :=
  "let " ++ name ++ " = " ++ creation className arguments ++ ";\n"

/-- Sets a member of an object of the component. -/
def assign (name key value : String) : String :=
  "this." ++ name ++ "." ++ key ++ " = " ++ value ++ ";\n"

end Widgetry.Script
