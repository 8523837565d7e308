/-! Diagnostics: a stable code, a message, the guarantee behind the code, the place in the widget
tree as a path of kinds, and hints. -/

namespace Widgetry

/-- The codes under which faults are reported, and any other name a caller brings. -/
inductive Code where
  | parse
  | unmappedKind
  | missingAttribute
  | invalidConstant
  | invalidInstance
  | shape
  | registry
  | script
  | other (name : String)
  deriving DecidableEq

namespace Code

/-- The code as it is reported. -/
def text : Code → String
  | parse => "BLUI-PARSE"
  | unmappedKind => "BLUI-UNMAPPED-KIND"
  | missingAttribute => "BLUI-MISSING-ATTR"
  | invalidConstant => "BLUI-INVALID-CONST"
  | invalidInstance => "BLUI-INVALID-INSTANCE"
  | shape => "BLUI-STRUCTURE"
  | registry => "BLUI-REGISTRY"
  | script => "BLUI-SCRIPT"
  | other name => name

/-- The code that a text names. -/
def ofText (name : String) : Code :=
  ([parse, unmappedKind, missingAttribute, invalidConstant, invalidInstance, shape, registry,
    script].find? (text · == name)).getD (other name)

/-- What holds wherever no fault of this code is reported. -/
def guarantee : Code → String
  | parse => "A blui template holds exactly one root element."
  | unmappedKind => "Every element kind is declared in the element mapping registry."
  | missingAttribute => "Required constructor and initializer attributes are present."
  | invalidConstant => "Constant arguments name a member of their constant namespace."
  | invalidInstance => "Instance names are valid script identifiers after camel-casing."
  | shape => "Menus alternate Menu > MenuItem > Menu and contain only menu kinds."
  | registry => "The element mapping registry is validated once before use."
  | script => "Generated code is spliced into a default-exported component object."
  | other _ => "Unknown invariant."

end Code

/-- What a caller is told about a fault. -/
structure Diagnostic where
  code : Code
  message : String
  /-- Kinds from the root to the place of the fault, joined by ` > `. -/
  context : Option String := none
  hints : List String := []
  deriving DecidableEq

namespace Diagnostic

def guarantee (d : Diagnostic) : String := d.code.guarantee

/-- The diagnostic with one hint more. -/
def withHint (d : Diagnostic) (hint : String) : Diagnostic := { d with hints := d.hints ++ [hint] }

/-- Code and message on one line. -/
def display (d : Diagnostic) : String := "[" ++ d.code.text ++ "] " ++ d.message

end Diagnostic

end Widgetry
