import Widgetry.MenuSkip
import Widgetry.Namer
import Widgetry.Script.Basic

/-! The script of a widget tree: one record for every instance, in document order. A hosted root is
no new instance, and a menu takes everything below it into its own record. -/

namespace Widgetry.Script

variable (r : Registry)

/-- The expression of one argument at a place; nothing if it is optional and absent. -/
def argument (m : Mapping) (role : Role) (p : Place) (a : ArgumentSpec) :
    Except Fault (Option Argument) :=
  match p.attribute? a.key with
  | none => if a.optional then .ok none else .error (p.fault (.missing p.kind a.key role))
  | some value =>
    match a.kind with
    | .string => .ok (some (.text value))
    | .constant =>
      if Text.isIdentifier value then .ok (some (.constant ((m.namespace? a.key).getD "") value))
      else .error (p.fault (.notConstant a.key value))

/-- The expressions of several arguments, each with its key, in order. -/
def arguments (m : Mapping) (role : Role) (p : Place) :
    List ArgumentSpec → Except Fault (List (String × Argument))
  | [] => .ok []
  | a :: as => do
    let value ← argument m role p a
    let rest ← arguments m role p as
    return (value.map fun v => (a.key, v)).toList ++ rest

structure State where
  namer : Namer := {}
  skip : MenuSkip := {}
  imports : List String := []
  records : List Record := []

namespace State

/-- Imports a class once. -/
def addImport (s : State) (className : String) : State :=
  if s.imports.contains className then s else { s with imports := s.imports ++ [className] }

def addRecord (s : State) (d : Record) : State := { s with records := s.records ++ [d] }

end State

/-- The record of a hosted root. -/
def hostRecord (m : Mapping) (className : String) (p : Place) : Except Fault Record := do
  return ⟨r.ambientInstance, className, none, ← arguments m .initial p m.postInit, []⟩

/-- The record of a new instance, without its menu. -/
def newRecord (m : Mapping) (className name : String) (p : Place) : Except Fault Record := do
  let constructed ← arguments m .constructor p m.constructorArgs
  return ⟨name, className, some (constructed.map Prod.snd), ← arguments m .initial p m.postInit, []⟩

/-- A menu brings the class of its items, starts a skip and takes its program into the record. -/
def addMenu (p : Place) (d : Record) (s : State) : Except Fault State := do
  let s :=
    match r.runtimeClass? r.menu.menuItemKind with
    | some itemClass => s.addImport itemClass
    | none => s
  let menu ← Menu.lines r p d.name
  return { s with skip := .begin }.addRecord { d with menu }

def enter (p : Place) (s : State) : Except Fault State := do
  let m ← r.require p
  if !m.requiresInstance then return s
  let className := m.runtimeClass.getD ""
  let s := s.addImport className
  if s.skip.active then return { s with skip := s.skip.enter r p }
  if p.hosted then return s.addRecord (← hostRecord r m className p)
  let (name, namer) ← s.namer.name p
  let d ← newRecord m className name p
  let s := { s with namer }
  if p.kind = r.menu.menuKind then addMenu r p d s else return s.addRecord d

def leave (p : Place) (s : State) : Except Fault State := .ok { s with skip := .leave r p }

def visitor : Visitor Fault State := ⟨enter r, leave r⟩

end Widgetry.Script

namespace Widgetry

/-- The script of a tree. -/
def Script.ofTree (r : Registry) (t : Tree) : Except Fault Script := do
  let s ← (Script.visitor r).walk t.rootPlace {}
  return ⟨s.imports, s.records, r.runtimePackage⟩

end Widgetry
