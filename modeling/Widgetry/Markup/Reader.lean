import Widgetry.Markup.Element
import Widgetry.Markup.Token
import Widgetry.Fault

/-! Elements of a markup text. Reading never stumbles: an end tag closes the nearest open element of
its name and is ignored if there is none, elements still open at the end are closed there, and what
follows the document element is ignored. Only a text without any element has no reading. -/

namespace Widgetry.Markup

/-- A namespace, by its name; the empty name is that of no namespace. -/
abbrev Space := String

/-- The name of a namespace that every document knows. -/
def builtinSpace (path : List String) : Space :=
  String.intercalate "/" (["http:", "", "www.w3.org"] ++ path)

/-- The namespace of attributes that mean the same in every document. -/
def sharedSpace : Space := builtinSpace ["XML", "1998", "namespace"]

/-- The namespace of namespace declarations. -/
def declarationSpace : Space := builtinSpace ["2000", "xmlns", ""]

/-- Namespaces by qualifier; unqualified tags have the qualifier `none`. -/
abbrev Scope := List (Option String × Space)

/-- What every document knows. -/
def Scope.base : Scope :=
  [(none, ""), (some "xml", sharedSpace), (some "xmlns", declarationSpace)]

/-- Unknown qualifiers have no namespace. -/
def Scope.space (scope : Scope) (qualifier : Option String) : Space :=
  (scope.lookup qualifier).getD ""

/-- The qualifier that an attribute declares, if it may be declared. -/
def declared? (a : TagAttribute) : Option (Option String) :=
  if a.value = declarationSpace then none
  else
    match a.name.qualifier, a.name.base with
    | some "xmlns", "xml" | some "xmlns", "xmlns" => none
    | some "xmlns", base => some (some base)
    | none, "xmlns" => some none
    | _, _ => none

/-- The declarations among the attributes of a tag. The first of a qualifier holds, unless another
one takes its namespace away. -/
def declarations (attributes : List TagAttribute) : Scope :=
  attributes.foldl (fun scope a =>
    match declared? a with
    | some qualifier =>
      if a.value.isEmpty || (scope.lookup qualifier).isNone then (qualifier, a.value) :: scope
      else scope
    | none => scope) []

/-- The attributes that are no declarations. Of qualified ones with one namespace and base name the
first is kept; `seen` holds those met before. -/
def plainAttributes (scope : Scope) :
    List (Space × String) → List TagAttribute → List Attribute
  | _, [] => []
  | seen, a :: as =>
    if a.name.declares then plainAttributes scope seen as
    else if a.name.qualifier.isNone then
      ⟨a.name.base, a.value⟩ :: plainAttributes scope seen as
    else
      let key := (scope.space a.name.qualifier, a.name.base)
      if seen.contains key then plainAttributes scope seen as
      else ⟨a.name.base, a.value⟩ :: plainAttributes scope (key :: seen) as

/-- An element whose end has not been met. -/
structure Frame where
  space : Space
  tag : String
  attributes : List Attribute
  /-- The namespaces known inside the element. -/
  scope : Scope
  /-- The elements inside, the latest first. -/
  children : List Element := []

namespace Frame

def ofTag (scope : Scope) (name : Name) (attributes : List TagAttribute) : Frame :=
  let scope := declarations attributes ++ scope
  { space := scope.space name.qualifier, tag := name.base,
    attributes := plainAttributes scope [] attributes, scope }

def element (f : Frame) : Element := ⟨f.tag, f.attributes, f.children.reverse⟩

def add (f : Frame) (e : Element) : Frame := { f with children := e :: f.children }

end Frame

/-- How far a document has been read: nothing yet, inside open elements (the innermost and those
around it, from inside out), or to the end of the document element. -/
inductive Reading where
  | before
  | inside (top : Frame) (outer : List Frame)
  | done (root : Element)

namespace Reading

/-- Ends the innermost open element. -/
def closeTop (top : Frame) : List Frame → Reading
  | [] => .done top.element
  | f :: outer => .inside (f.add top.element) outer

/-- Ends elements from inside out up to the first that `p` holds of. -/
def closeTo (p : Frame → Bool) (top : Frame) : List Frame → Reading
  | [] => .done top.element
  | f :: outer =>
    if p top then .inside (f.add top.element) outer else closeTo p (f.add top.element) outer

def step : Reading → Token → Reading
  | .before, .opening name attributes closed =>
    let frame := Frame.ofTag .base name attributes
    if closed then .done frame.element else .inside frame []
  | .inside top outer, .opening name attributes closed =>
    let frame := Frame.ofTag top.scope name attributes
    if closed then .inside (top.add frame.element) outer else .inside frame (top :: outer)
  | .inside top outer, .closing name =>
    let space := top.scope.space name.qualifier
    let named (f : Frame) : Bool := f.space == space && f.tag == name.base
    if (top :: outer).any named then closeTo named top outer else .inside top outer
  | .inside top outer, .closingCurrent => closeTop top outer
  | reading, _ => reading

/-- The document element, with everything still open ended. -/
def root? : Reading → Option Element
  | .before => none
  | .done root => some root
  | .inside top outer => some (outer.foldl (fun e f => (f.add e).element) top.element)

end Reading

/-- The document element of a text. -/
def read (text : String) : Except Fault Element :=
  match ((tokens text.toList).foldl Reading.step .before).root? with
  | some root => .ok root
  | none => .error (.of .noElement)

end Widgetry.Markup
