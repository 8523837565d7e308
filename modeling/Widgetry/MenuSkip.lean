import Widgetry.Registry.Basic

/-! Whether a walk is inside a menu. Nothing below a menu has an instance or a tag of its own. The
flag is set when a menu gets its instance and found again from the parent's kind at every leave. -/

namespace Widgetry

structure MenuSkip where
  active : Bool := false
  deriving DecidableEq

namespace MenuSkip

/-- The node right above is a menu or a menu item. -/
def parentInMenu (r : Registry) (p : Place) : Bool := p.parentKind?.any r.isMenuKind

/-- A menu has just got its instance. -/
def begin : MenuSkip := ⟨true⟩

/-- An instance is met inside a menu: the menu is over if the parent is no part of one. -/
def enter (r : Registry) (p : Place) (s : MenuSkip) : MenuSkip :=
  ⟨s.active && parentInMenu r p⟩

/-- After a node is left the walk is where its parent is. -/
def leave (r : Registry) (p : Place) : MenuSkip := ⟨parentInMenu r p⟩

end MenuSkip

end Widgetry
