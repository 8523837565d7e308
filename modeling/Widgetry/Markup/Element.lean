/-! Markup elements: a tag, attributes in source order, and the elements inside. Text, comments and
instructions are not kept. -/

namespace Widgetry.Markup

structure Attribute where
  name : String
  value : String
  deriving DecidableEq

structure Element where
  tag : String
  attributes : List Attribute
  children : List Element

namespace Element

mutual

/-- The element and all elements inside it in document order, each with its depth. -/
def listing (depth : Nat) : Element → List (Nat × Element)
  | ⟨tag, attributes, children⟩ =>
    (depth, ⟨tag, attributes, children⟩) :: listings (depth + 1) children

/-- The listings of several elements, one after the other. -/
def listings (depth : Nat) : List Element → List (Nat × Element)
  | [] => []
  | e :: es => listing depth e ++ listings depth es

end

end Element

end Widgetry.Markup
