import Widgetry.Diagnostic

/-! Everything that can go wrong, as causes. A fault is a cause and, for causes that sit in a widget
tree, the path of kinds from the root to the place. The wording is here and nowhere else. -/

namespace Widgetry

/-- What an attribute is read for. -/
inductive Role where
  | constructor
  | initial
  deriving DecidableEq

def Role.text : Role → String
  | constructor => "a constructor argument"
  | initial => "an initial value"

/-- Why a registry is refused. -/
inductive RegistryFault where
  | unreadable (detail : String)
  | ambientName (name : String)
  | noClass (kind : String)
  | noComponent (kind : String)
  | noNamespace (kind key : String)
  | menuUnmapped (kind : String)
  | menuWithoutInstance (kind : String)
  | menuWithoutConstant (kind constant : String)
  | itemWithoutClass (kind : String)
  | itemUnmapped (kind : String)
  deriving DecidableEq

def RegistryFault.message : RegistryFault → String
  | unreadable detail => "Registry is not valid JSON: " ++ detail
  | ambientName name => "ambientInstance '" ++ name ++ "' is not an identifier"
  | noClass kind => "'" ++ kind ++ "' requires an instance but has no runtimeClass"
  | noComponent kind =>
    "'" ++ kind ++ "' requires an instance but has no emittedComponent to bind it to"
  | noNamespace kind key =>
    "'" ++ kind ++ "' has constant argument '" ++ key ++ "' without a constantNamespaces entry"
  | menuUnmapped kind => "menu kind '" ++ kind ++ "' is not mapped"
  | menuWithoutInstance kind => "menu kind '" ++ kind ++ "' must require an instance"
  | menuWithoutConstant kind constant =>
    "menu kind '" ++ kind ++ "' needs a constant constructor argument for '" ++ constant ++ "'"
  | itemWithoutClass kind => "menu item kind '" ++ kind ++ "' has no runtimeClass"
  | itemUnmapped kind => "menu item kind '" ++ kind ++ "' is not mapped"

/-- Why a component's script cannot take generated code. -/
inductive ScriptFault where
  | noBlock
  | unreadable
  | noDefaultExport
  | notAnObject
  | mixinsNotAnArray
  deriving DecidableEq

def ScriptFault.message : ScriptFault → String
  | noBlock => "No <script> block found"
  | unreadable => "Component script does not parse"
  | noDefaultExport => "Component script has no default export"
  | notAnObject => "The default export is not an object literal"
  | mixinsNotAnArray => "`mixins` must be an array literal"

/-- The causes of a failed compilation. -/
inductive Cause where
  | noElement
  | noRoot (container : String)
  | manyRoots (container : String) (count : Nat) (second : String)
  | unmapped (kind : String) (known : List String)
  | missing (kind key : String) (role : Role)
  | missingTitle (key : String)
  | notConstant (key value : String)
  | badName (declared : String)
  | takenName (declared name : String)
  | noHost (kind : String)
  | strayItem (kind menu : String)
  | crowdedItem (kind : String) (children : Nat) (menu : String)
  | nestedMenu (kind menu item : String)
  | foreignInMenu (kind : String)
  | noMenuClass
  | notMenuKind (kind : String)
  | registry (fault : RegistryFault)
  | script (fault : ScriptFault)
  deriving DecidableEq

namespace Cause

def code : Cause → Code
  | noElement | noRoot _ => .parse
  | unmapped _ _ => .unmappedKind
  | missing _ _ _ | missingTitle _ => .missingAttribute
  | notConstant _ _ => .invalidConstant
  | badName _ | takenName _ _ => .invalidInstance
  | manyRoots _ _ _ | noHost _ | strayItem _ _ | crowdedItem _ _ _ | nestedMenu _ _ _
  | foreignInMenu _ | noMenuClass | notMenuKind _ => .shape
  | registry _ => .registry
  | script _ => .script

def message : Cause → String
  | noElement => "Markup contains no element"
  | noRoot container => "<" ++ container ++ "> contains no element"
  | manyRoots container count second =>
    "<" ++ container ++ "> contains " ++ toString count ++
      " root elements; found a second root <" ++ second ++ ">"
  | unmapped kind _ => "No element mapping for <" ++ kind ++ ">"
  | missing kind key role =>
    "<" ++ kind ++ "> is missing attribute '" ++ key ++ "' required as " ++ role.text
  | missingTitle key => "Missing '" ++ key ++ "' attribute used as the menu title"
  | notConstant key value => key ++ "=\"" ++ value ++ "\" is not a constant name"
  | badName declared => "instance=\"" ++ declared ++ "\" does not name an identifier"
  | takenName declared name =>
    "instance=\"" ++ declared ++ "\" reuses the name '" ++ name ++ "'"
  | noHost kind => "'" ++ kind ++ "' cannot be merged into an extended instance"
  | strayItem kind menu => "'" ++ kind ++ "' must be a direct child of '" ++ menu ++ "'"
  | crowdedItem kind children menu =>
    "'" ++ kind ++ "' holds " ++ toString children ++ " children; at most one nested '" ++ menu ++
      "' is allowed"
  | nestedMenu kind menu item =>
    "'" ++ kind ++ "' cannot nest directly in '" ++ menu ++ "'; wrap it in a '" ++ item ++ "'"
  | foreignInMenu kind => "'" ++ kind ++ "' is not allowed inside a menu"
  | noMenuClass => "Menu node without a runtime class"
  | notMenuKind kind => "'" ++ kind ++ "' is not a menu kind"
  | registry fault => fault.message
  | script fault => fault.message

def hints : Cause → List String
  | manyRoots _ _ _ => ["Wrap the elements in a single Window"]
  | unmapped _ known => ["Known kinds: " ++ String.intercalate ", " known]
  | takenName _ _ => ["Give every instance a distinct name"]
  | noHost _ => ["Remove `extends` from the component or declare a hostSubstitution"]
  | script .noDefaultExport =>
    ["Add `export default { mixins: [] }` to the component"]
  | _ => []

end Cause

/-- A cause and, where it sits in a tree, the kinds from the root down to its place. -/
structure Fault where
  cause : Cause
  path : Option (List String) := none
  deriving DecidableEq

namespace Fault

/-- The path as it is reported. -/
def pathText (kinds : List String) : String := String.intercalate " > " kinds

def diagnostic (f : Fault) : Diagnostic :=
  ⟨f.cause.code, f.cause.message, f.path.map pathText, f.cause.hints⟩

/-- A fault that sits nowhere in a tree. -/
def of (cause : Cause) : Fault := ⟨cause, none⟩

end Fault

end Widgetry
