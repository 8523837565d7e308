import Widgetry.Table
import Widgetry.Tree.Place

/-! Element registries: a table of kinds that drives the template and the script of a component. For
each kind it says whether a runtime object stands behind the widget, how that object is constructed
and initialised from attributes, and which component, slot and attributes the template shows. -/

namespace Widgetry

/-- How an attribute becomes a script expression: as a member of a namespace or as a string. -/
inductive ArgumentKind where
  | constant
  | string
  deriving DecidableEq

structure ArgumentSpec where
  key : String
  kind : ArgumentKind
  optional : Bool := false
  deriving DecidableEq

/-- The element that stands for a hosted root, and the class it is bound to. -/
structure HostSubstitution where
  element : String
  cssClass : String
  deriving DecidableEq

structure Mapping where
  requiresInstance : Bool := false
  runtimeClass : Option String := none
  constructorArgs : List ArgumentSpec := []
  postInit : List ArgumentSpec := []
  constantNamespaces : Table String := .empty
  emittedComponent : Option String := none
  hostSubstitution : Option HostSubstitution := none
  slotName : Option String := none
  passthroughProps : List String := []
  deriving DecidableEq

namespace Mapping

/-- The tag in the template: the host element for a hosted node, the component otherwise. -/
def openedTag (m : Mapping) (hosted : Bool) : Option String :=
  if hosted then m.hostSubstitution.map (·.element) else m.emittedComponent

/-- The namespace of a constant argument. -/
def namespace? (m : Mapping) (key : String) : Option String := m.constantNamespaces.get? key

end Mapping

/-- The words of menus: the two kinds, the attribute with the title, and the members of the runtime
objects that tie a menu together. -/
structure MenuTerms where
  menuKind : String
  menuItemKind : String
  submenuConstant : String
  titleAttribute : String
  itemsField : String
  submenuField : String
  deriving DecidableEq

structure Registry where
  version : String
  runtimePackage : String
  /-- The instance that a hosted root is merged into. -/
  ambientInstance : String
  menu : MenuTerms
  elements : Table Mapping
  deriving DecidableEq

namespace Registry

variable (r : Registry)

def mapping? (kind : String) : Option Mapping := r.elements.get? kind

/-- The mapping at a place. -/
def require (p : Place) : Except Fault Mapping :=
  match r.mapping? p.kind with
  | some m => .ok m
  | none => .error (p.fault (.unmapped p.kind r.elements.keys))

/-- A menu or a menu item. -/
def isMenuKind (kind : String) : Bool := kind == r.menu.menuKind || kind == r.menu.menuItemKind

/-- The namespace of the first constant that constructs a menu. -/
def submenuNamespace? : Option String := do
  let m ← r.mapping? r.menu.menuKind
  let a ← m.constructorArgs.find? (·.kind == .constant)
  m.namespace? a.key

def runtimeClass? (kind : String) : Option String := do (← r.mapping? kind).runtimeClass

end Registry

end Widgetry
