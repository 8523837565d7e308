import Widgetry.Table
import Widgetry.Markup.Element
import Widgetry.Fault

/-! Widget trees. A container element holds exactly one element, the root widget; every element
below it is a widget of the kind that its tag names. -/

namespace Widgetry

structure Node where
  kind : String
  attributes : Table String
  children : List Node

namespace Node

def attribute? (n : Node) (key : String) : Option String := n.attributes.get? key

mutual

/-- The number of nodes. -/
def size : Node → Nat
  | ⟨_, _, children⟩ => 1 + sizes children

def sizes : List Node → Nat
  | [] => 0
  | n :: ns => size n + sizes ns

end

mutual

/-- The widget of an element. -/
def ofElement : Markup.Element → Node
  | ⟨tag, attributes, children⟩ =>
    ⟨tag, .ofList (attributes.map fun a => (a.name, a.value)), ofElements children⟩

def ofElements : List Markup.Element → List Node
  | [] => []
  | e :: es => ofElement e :: ofElements es

end

end Node

/-- A root widget; a hosted one is merged into the instance that its component extends. -/
structure Tree where
  root : Node
  hosted : Bool

namespace Tree

/-- The number of widgets. -/
def size (t : Tree) : Nat := t.root.size

/-- The tree of a container's single element. -/
def ofContainer (container : Markup.Element) (hosted : Bool) : Except Fault Tree :=
  match container.children with
  | [] => .error (.of (.noRoot container.tag))
  | [root] => .ok ⟨.ofElement root, hosted⟩
  | _ :: second :: rest =>
    .error (.of (.manyRoots container.tag (rest.length + 2) second.tag))

end Tree

end Widgetry
