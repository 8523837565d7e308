import Widgetry.Tree.Place

/-! The walk over a widget tree: a node is entered, then the nodes below it are walked in order,
then it is left. The walk decides nothing and stops at the first fault of its visitor. The tour is
the list of the events of a walk. -/

namespace Widgetry

/-- A visitor takes its state through the events of a walk. -/
structure Visitor (ε σ : Type) where
  enter : Place → σ → Except ε σ
  leave : Place → σ → Except ε σ := fun _ s => .ok s

namespace Visitor

variable {ε σ : Type} (v : Visitor ε σ)

mutual

def walkNode (hosted : Bool) (ancestors : List Ancestor) (index : Nat) :
    Node → σ → Except ε σ
  | ⟨kind, attributes, children⟩, s => do
    let here : Place := ⟨index, ⟨kind, attributes, children⟩, hosted, ancestors⟩
    let s ← v.enter here s
    let s ← walkNodes (here.asAncestor :: ancestors) (index + 1) children s
    v.leave here s

def walkNodes (ancestors : List Ancestor) (index : Nat) : List Node → σ → Except ε σ
  | [], s => .ok s
  | n :: ns, s => do
    let s ← walkNode false ancestors index n s
    walkNodes ancestors (index + n.size) ns s

end

/-- The walk over a place and everything below it. -/
def walk (p : Place) (s : σ) : Except ε σ := v.walkNode p.hosted p.ancestors p.index p.node s

end Visitor

/-- An event of a walk. -/
inductive Event where
  | enter (p : Place)
  | leave (p : Place)

namespace Node

mutual

/-- The events of a walk over a node. -/
def tour (hosted : Bool) (ancestors : List Ancestor) (index : Nat) : Node → List Event
  | ⟨kind, attributes, children⟩ =>
    let here : Place := ⟨index, ⟨kind, attributes, children⟩, hosted, ancestors⟩
    .enter here :: (tours (here.asAncestor :: ancestors) (index + 1) children ++ [.leave here])

def tours (ancestors : List Ancestor) (index : Nat) : List Node → List Event
  | [] => []
  | n :: ns => tour false ancestors index n ++ tours ancestors (index + n.size) ns

end

end Node

/-- The events of a walk from a place. -/
def Place.tour (p : Place) : List Event := p.node.tour p.hosted p.ancestors p.index

/-- What a visitor does at an event. -/
def Visitor.step {ε σ : Type} (v : Visitor ε σ) : Event → σ → Except ε σ
  | .enter p => v.enter p
  | .leave p => v.leave p

end Widgetry
