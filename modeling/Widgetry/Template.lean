import Widgetry.MenuSkip
import Widgetry.Namer
import Widgetry.Text.Lines
import Widgetry.Text.Literal
import Widgetry.Tree.Walk

/-! The template of a widget tree. Slots and component tags nest as the widgets do, two columns a
level; attributes stand two columns past their tag. A menu is one tag with an instance binding, and
nothing below it is shown. The template is a list of marks, whose texts make up the document. -/

namespace Widgetry.Template

/-- A piece of the template. `indent` is the column of the slot or tag that the piece belongs to. -/
inductive Mark where
  | openSlot (indent : Nat) (slot : String)
  | openTag (indent : Nat) (tag : String)
  | bindInstance (indent : Nat) (name : String)
  | prop (indent : Nat) (name value : String)
  | bindClass (indent : Nat) (cssClass : String)
  | endOpenTag
  | closeTag (indent : Nat) (tag : String)
  | closeSlot (indent : Nat)
  deriving DecidableEq

open Text (pad attributeValue)

def Mark.text : Mark → String
  | openSlot indent slot => pad indent ++ "<template slot=\"" ++ slot ++ "\">\n"
  | openTag indent tag => pad indent ++ "<" ++ tag
  | bindInstance indent name => "\n" ++ pad indent ++ "  :instance=\"" ++ name ++ "\""
  | prop indent name value =>
    "\n" ++ pad indent ++ "  " ++ name ++ "=\"" ++ attributeValue value ++ "\""
  | bindClass indent cssClass => "\n" ++ pad indent ++ "  :class=\"" ++ cssClass ++ "\""
  | endOpenTag => ">\n"
  | closeTag indent tag => pad indent ++ "</" ++ tag ++ ">\n"
  | closeSlot indent => pad indent ++ "</template>\n"

/-- The text of a list of marks. -/
def render (marks : List Mark) : String := String.join (marks.map Mark.text)

/-- What the walk carries along. -/
structure State where
  marks : List Mark := []
  indent : Nat := 0
  namer : Namer := {}
  skip : MenuSkip := {}

namespace State

def write (s : State) (marks : List Mark) : State := { s with marks := s.marks ++ marks }

/-- One level in. -/
def deeper (s : State) : State := { s with indent := s.indent + 2 }

/-- One level out. -/
def shallower (s : State) : State := { s with indent := s.indent - 2 }

end State

variable (r : Registry)

/-- Opens the slot around a widget, unless its parent is hosted. -/
def openSlot (m : Mapping) (p : Place) (s : State) : State :=
  match m.slotName with
  | some slot =>
    if p.parentHosted || s.skip.active then s
    else s.deeper.write [.openSlot s.deeper.indent slot]
  | none => s

def openTag (tag : Option String) (s : State) : State :=
  match tag with
  | some tag => s.deeper.write [.openTag s.deeper.indent tag]
  | none => s

/-- Names the instance behind a widget and binds the tag to it. A menu starts a skip. -/
def bindInstance (m : Mapping) (p : Place) (s : State) : Except Fault State :=
  if !m.requiresInstance then .ok s
  else if s.skip.active then .ok { s with skip := s.skip.enter r p }
  else if p.hosted then .ok s
  else do
    let (name, namer) ← s.namer.name p
    let skip := if p.kind = r.menu.menuKind then .begin else s.skip
    return { s.write [.bindInstance s.indent name] with namer, skip }

/-- The attributes that are shown as they are, and the class of a host. -/
def attributeMarks (m : Mapping) (p : Place) (indent : Nat) : List Mark :=
  (m.passthroughProps.filterMap fun name =>
    (p.attribute? name).map fun value => .prop indent name value) ++
  match m.hostSubstitution with
  | some host => if p.hosted then [.bindClass indent host.cssClass] else []
  | none => []

def enter (p : Place) (s : State) : Except Fault State := do
  let m ← r.require p
  let tag := if s.skip.active then none else m.openedTag p.hosted
  let s ← bindInstance r m p (openTag tag (openSlot m p s))
  return if tag.isNone then s else s.write (attributeMarks m p s.indent ++ [.endOpenTag])

def closeTag (tag : Option String) (s : State) : State :=
  match tag with
  | some tag => (s.write [.closeTag s.indent tag]).shallower
  | none => s

def closeSlot (m : Mapping) (p : Place) (s : State) : State :=
  if m.slotName.isSome && !p.parentHosted then (s.write [.closeSlot s.indent]).shallower else s

def leave (p : Place) (s : State) : Except Fault State := do
  let m ← r.require p
  let s := { s with skip := MenuSkip.leave r p }
  return if s.skip.active then s else closeSlot m p (closeTag (m.openedTag p.hosted) s)

def visitor : Visitor Fault State := ⟨enter r, leave r⟩

/-- The marks of a tree. -/
def marks (t : Tree) : Except Fault (List Mark) := do
  return (← (visitor r).walk t.rootPlace {}).marks

/-- The text of a tree without the outer element. -/
def body (t : Tree) : Except Fault String := do return render (← marks r t)

def banner : String := "<!-- Generated by blui-compiler -->"

/-- The body between the tags of the outer element, below an optional banner. -/
def document (withBanner : Bool) (body : String) : String :=
  "<template>\n" ++ (if withBanner then "  " ++ banner ++ "\n" else "") ++ body ++ "</template>\n"

/-- The whole template of a tree. -/
def template (t : Tree) (withBanner : Bool) : Except Fault String := do
  return document withBanner (← body r t)

end Widgetry.Template
