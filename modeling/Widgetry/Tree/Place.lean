import Widgetry.Tree.Basic

/-! Places in a widget tree: a node together with its index in document order and the chain of nodes
above it. The places of a tree, in document order, are a flat table of it. -/

namespace Widgetry

/-- What a place knows of a node above it. -/
structure Ancestor where
  index : Nat
  kind : String
  hosted : Bool
  deriving DecidableEq

/-- A node in its tree. -/
structure Place where
  index : Nat
  node : Node
  hosted : Bool
  /-- The nodes above, the nearest first. -/
  ancestors : List Ancestor

namespace Place

def kind (p : Place) : String := p.node.kind

def attribute? (p : Place) (key : String) : Option String := p.node.attribute? key

/-- What the places below know of this one. -/
def asAncestor (p : Place) : Ancestor := ⟨p.index, p.kind, p.hosted⟩

def parent? (p : Place) : Option Ancestor := p.ancestors.head?

/-- The kind of the node above. -/
def parentKind? (p : Place) : Option String := p.parent?.map (·.kind)

/-- The node above is hosted. -/
def parentHosted (p : Place) : Bool := p.parent?.any (·.hosted)

/-- Kinds from the root down. -/
def path (p : Place) : List String := (p.ancestors.map (·.kind)).reverse ++ [p.kind]

/-- A fault at this place. -/
def fault (p : Place) (cause : Cause) : Fault := ⟨cause, some p.path⟩

/-- The indices of siblings of which the first has the index `first`. -/
def siblingIndices (first : Nat) : List Node → List Nat
  | [] => []
  | n :: ns => first :: siblingIndices (first + n.size) ns

/-- The indices of the nodes right below. -/
def childIndices (p : Place) : List Nat := siblingIndices (p.index + 1) p.node.children

end Place

namespace Node

mutual

/-- The places of a node and of all nodes below it, in document order. -/
def places (hosted : Bool) (ancestors : List Ancestor) (index : Nat) : Node → List Place
  | ⟨kind, attributes, children⟩ =>
    ⟨index, ⟨kind, attributes, children⟩, hosted, ancestors⟩ ::
      placesList (⟨index, kind, hosted⟩ :: ancestors) (index + 1) children

def placesList (ancestors : List Ancestor) (index : Nat) : List Node → List Place
  | [] => []
  | n :: ns => places false ancestors index n ++ placesList ancestors (index + n.size) ns

end

end Node

namespace Tree

/-- The place of the root. -/
def rootPlace (t : Tree) : Place := ⟨0, t.root, t.hosted, []⟩

/-- All places in document order. -/
def places (t : Tree) : List Place := t.root.places t.hosted [] 0

/-- The place with an index. -/
def place? (t : Tree) (index : Nat) : Option Place := t.places[index]?

end Tree

end Widgetry
