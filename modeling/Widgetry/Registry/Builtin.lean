import Widgetry.Registry.Basic

/-! The registry that is used where a caller brings none. -/

namespace Widgetry.Registry

def builtinMenu : MenuTerms where
  menuKind := "Menu"
  menuItemKind := "MenuItem"
  submenuConstant := "Submenu"
  titleAttribute := "title"
  itemsField := "items"
  submenuField := "submenu"

def windowMapping : Mapping where
  requiresInstance := true
  runtimeClass := some "ApplicationWindow"
  constructorArgs := [⟨"type", .constant, false⟩]
  postInit := [⟨"title", .string, true⟩]
  constantNamespaces := .ofList [("type", "ApplicationWindow.WindowType")]
  emittedComponent := some "bl-window"
  hostSubstitution := some ⟨"div", "windowClass"⟩

def menuMapping : Mapping where
  requiresInstance := true
  runtimeClass := some "Menu"
  constructorArgs := [⟨"type", .constant, false⟩, ⟨"title", .string, true⟩]
  constantNamespaces := .ofList [("type", "Menu.MenuType")]
  emittedComponent := some "bl-menu"
  slotName := some "menuBar"

def menuItemMapping : Mapping where
  runtimeClass := some "MenuItem"
  constructorArgs := [⟨"title", .string, false⟩]

def toolbarMapping : Mapping where
  runtimeClass := some "Toolbar"
  slotName := some "toolbar"

def toolbarItemMapping : Mapping where
  emittedComponent := some "bl-toolbar-item"
  passthroughProps := ["label"]

def buttonMapping : Mapping where
  requiresInstance := true
  runtimeClass := some "Button"
  constructorArgs := [⟨"type", .constant, false⟩, ⟨"title", .string, false⟩]
  constantNamespaces := .ofList [("type", "Button.ButtonType")]
  emittedComponent := some "bl-button"

def segmentedControlMapping : Mapping where
  requiresInstance := true
  runtimeClass := some "SegmentedControl"
  emittedComponent := some "bl-segmented-control"

/-- Windows, menus, toolbars, buttons and segmented controls. -/
def builtin : Registry where
  version := "0.1"
  runtimePackage := "@hardboiled65/vuetk"
  ambientInstance := "instance"
  menu := builtinMenu
  elements := .ofList
    [("Window", windowMapping), ("Menu", menuMapping), ("MenuItem", menuItemMapping),
     ("Toolbar", toolbarMapping), ("ToolbarItem", toolbarItemMapping), ("Button", buttonMapping),
     ("SegmentedControl", segmentedControlMapping)]

end Widgetry.Registry
