import Widgetry.Registry.Basic
import Widgetry.Tree.Walk

/-! The shape of widget trees: every kind is mapped, a hosted root has a host, menus hold only
items, and an item stands in a menu and holds at most one menu. -/

namespace Widgetry.Structure

variable (r : Registry)

/-- What is wrong with a place of a mapped kind, looking no further than its parent and children. -/
def cause? (p : Place) (m : Mapping) : Option Cause :=
  let menu := r.menu.menuKind
  let item := r.menu.menuItemKind
  if p.hosted && m.hostSubstitution.isNone then some (.noHost p.kind)
  else if p.kind = item then
    if p.parentKind? ≠ some menu then some (.strayItem p.kind menu)
    else if 1 < p.node.children.length then
      some (.crowdedItem p.kind p.node.children.length menu)
    else none
  else if p.kind = menu then
    if p.parentKind? = some menu then some (.nestedMenu p.kind menu item) else none
  else if p.parentKind?.any r.isMenuKind then some (.foreignInMenu p.kind)
  else none

def visitor : Visitor Fault Unit where
  enter p _ := do
    let m ← r.require p
    match cause? r p m with
    | some cause => .error (p.fault cause)
    | none => .ok ()

/-- Accepts a tree of the right shape, and reports the first fault in document order otherwise. -/
def check (t : Tree) : Except Fault Unit := (visitor r).walk t.rootPlace ()

end Widgetry.Structure
