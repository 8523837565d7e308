import Widgetry.Registry.Basic
import Widgetry.Text.Identifier

/-! Consistency of a registry: instances have a class and a component, constants have a namespace,
and the two menu kinds are mapped as menus need them. The first fault in table order is reported. -/

namespace Widgetry.Registry

variable (r : Registry)

/-- What is wrong with the mapping of one kind. -/
def mappingFaults (kind : String) (m : Mapping) : List RegistryFault :=
  (if m.requiresInstance && m.runtimeClass.isNone then [.noClass kind] else []) ++
  (if m.requiresInstance && m.emittedComponent.isNone then [.noComponent kind] else []) ++
  (m.constructorArgs ++ m.postInit).filterMap fun a =>
    if a.kind = .constant ∧ (m.namespace? a.key).isNone then some (.noNamespace kind a.key)
    else none

/-- What is wrong with the menu kind. -/
def menuFaults : List RegistryFault :=
  match r.mapping? r.menu.menuKind with
  | none => [.menuUnmapped r.menu.menuKind]
  | some m =>
    (if m.requiresInstance then [] else [.menuWithoutInstance r.menu.menuKind]) ++
    (if r.submenuNamespace?.isSome then []
      else [.menuWithoutConstant r.menu.menuKind r.menu.submenuConstant])

/-- What is wrong with the menu item kind. -/
def menuItemFaults : List RegistryFault :=
  match r.mapping? r.menu.menuItemKind with
  | none => [.itemUnmapped r.menu.menuItemKind]
  | some m => if m.runtimeClass.isSome then [] else [.itemWithoutClass r.menu.menuItemKind]

/-- Everything that is wrong, in the order in which it is looked for. -/
def faults : List RegistryFault :=
  (if Text.isIdentifier r.ambientInstance then [] else [.ambientName r.ambientInstance]) ++
  (r.elements.entries.flatMap fun (kind, m) => mappingFaults kind m) ++
  r.menuFaults ++ r.menuItemFaults

/-- Accepts a consistent registry. -/
def check : Except Fault Unit :=
  match r.faults with
  | [] => .ok ()
  | fault :: _ => .error (.of (.registry fault))

end Widgetry.Registry
