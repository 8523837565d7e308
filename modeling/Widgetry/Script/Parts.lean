import Widgetry.Text.Lines

/-! The parts of a generated script: classes to import, data fields, and one fragment of statements
per instance. They are spliced into a component as imports and a mixin. -/

namespace Widgetry.Script

structure Parts where
  imports : List String
  dataFields : List String
  initStatements : List String
  runtimePackage : String
  deriving DecidableEq

namespace Parts

/-- One import of all classes, or nothing if there is none. -/
def importsCode (p : Parts) : String :=
  if p.imports.isEmpty then ""
  else
    r"import {" ++ "\n  " ++ String.intercalate ",\n  " p.imports ++ "\n" ++ r"} from '" ++
      p.runtimePackage ++ "';\n"

/-- A function that returns every field as null. -/
def dataCode (p : Parts) : String :=
  r"data() {" ++ "\n" ++ r"  return {" ++ "\n" ++
    String.join (p.dataFields.map fun field => "    " ++ field ++ ": null,\n") ++
    r"  };" ++ "\n" ++ r"}," ++ "\n"

/-- A function with all fragments, set in by two columns, with an empty line between them. -/
def createdCode (p : Parts) : String :=
  r"created() {" ++ "\n" ++
    String.intercalate "\n" (p.initStatements.map (Text.indentLines 2)) ++ r"}," ++ "\n"

/-- An object with the two functions. -/
def mixinCode (p : Parts) : String := r"{" ++ "\n" ++ p.dataCode ++ p.createdCode ++ r"}"

end Parts

end Widgetry.Script
