import Widgetry.Registry.Basic
import Widgetry.Script.Statement
import Widgetry.Text.Lines
import Widgetry.Text.Literal
import Widgetry.Tree.Walk

/-! The statements that build a menu at run time. Every widget below the menu has a block of its own
that declares `_submenu` or `_menuItem`, so that inner declarations shadow outer ones and every link
refers to the nearest object around it. -/

namespace Widgetry.Menu

/-- A line of a menu program. -/
inductive Line where
  | openBlock (indent : Nat)
  | letSubmenu (indent : Nat) (className space constant title : String)
  | letItem (indent : Nat) (className title : String)
  /-- The item goes to the items of the named root, or of the submenu around it. -/
  | push (indent : Nat) (root : Option String) (field : String)
  /-- The submenu goes to the item around it. -/
  | attach (indent : Nat) (field : String)
  | closeBlock (indent : Nat)
  deriving DecidableEq

open Text (pad literal)

def submenuVariable : String := "_submenu"

def itemVariable : String := "_menuItem"

/-- Where items are pushed. -/
def pushTarget : Option String → String
  | some root => "this." ++ root
  | none => submenuVariable

def Line.text : Line → String
  | openBlock indent => pad indent ++ r"{" ++ "\n"
  | letSubmenu indent className space constant title =>
    pad indent ++
      Script.declare submenuVariable className [space ++ "." ++ constant, literal title]
  | letItem indent className title =>
    pad indent ++ Script.declare itemVariable className [literal title]
  | push indent root field =>
    pad indent ++ pushTarget root ++ "." ++ field ++ ".push(" ++ itemVariable ++ ");\n"
  | attach indent field =>
    pad indent ++ itemVariable ++ "." ++ field ++ " = " ++ submenuVariable ++ ";\n"
  | closeBlock indent => pad indent ++ r"}" ++ "\n"

/-- The text of a menu program. -/
def render (lines : List Line) : String := String.join (lines.map Line.text)

structure State where
  lines : List Line := []
  indent : Nat := 0

namespace State

def write (s : State) (lines : List Line) : State := { s with lines := s.lines ++ lines }

end State

variable (r : Registry)

/-- The declaration of the object behind a place. -/
def declaration (indent : Nat) (p : Place) : Except Fault Line :=
  match r.runtimeClass? p.kind with
  | none => .error (p.fault .noMenuClass)
  | some className =>
    match p.attribute? r.menu.titleAttribute with
    | none => .error (p.fault (.missingTitle r.menu.titleAttribute))
    | some title =>
      if p.kind = r.menu.menuKind then
        let space := r.submenuNamespace?.getD ""
        .ok (.letSubmenu indent className space r.menu.submenuConstant title)
      else if p.kind = r.menu.menuItemKind then .ok (.letItem indent className title)
      else .error (p.fault (.notMenuKind p.kind))

/-- The link between the object behind a place and the one around it. -/
def link (root : Place) (rootName : String) (indent : Nat) (p : Place) : Line :=
  if p.kind = r.menu.menuItemKind then
    let inRoot := p.parent?.map (·.index) = some root.index
    .push indent (if inRoot then some rootName else none) r.menu.itemsField
  else .attach indent r.menu.submenuField

/-- The root itself has its instance already. -/
def visitor (root : Place) (rootName : String) : Visitor Fault State where
  enter p s :=
    if p.index = root.index then .ok s
    else do
      let line ← declaration r (s.indent + 2) p
      return { s.write [.openBlock s.indent, line] with indent := s.indent + 2 }
  leave p s :=
    if p.index = root.index then .ok s
    else
      .ok { s.write [link r root rootName s.indent p, .closeBlock (s.indent - 2)] with
        indent := s.indent - 2 }

/-- The program for the menu at a place, whose instance has the given name. -/
def lines (root : Place) (rootName : String) : Except Fault (List Line) := do
  return (← (visitor r root rootName).walk root {}).lines

end Widgetry.Menu
