import Widgetry.Fault
import Widgetry.Source.Module

/-! What a component's script tells the compiler: whether its default export extends another
component, and where generated code goes. -/

namespace Widgetry.Component

open Source (ArraySpan Property Form)

/-- The default export of a script, which is an object literal. -/
structure Outline where
  declaresExtends : Bool := false
  /-- The offset of the object's opening brace. -/
  objectStart : Nat
  /-- The last array of mixins. -/
  mixins : Option ArraySpan := none
  deriving DecidableEq

namespace Outline

/-- Takes one property into account. -/
def addProperty (o : Outline) (p : Property) : Except ScriptFault Outline :=
  if p.name = some "extends" then .ok { o with declaresExtends := true }
  else if p.name = some "mixins" then
    match p.array with
    | some span => .ok { o with mixins := some span }
    | none => .error .mixinsNotAnArray
  else .ok o

def ofProperties (o : Outline) : List Property → Except ScriptFault Outline
  | [] => .ok o
  | p :: ps => do ofProperties (← o.addProperty p) ps

/-- The outline of the default export of a module. -/
def ofModule : Option (Option Form) → Except ScriptFault Outline
  | none => .error .unreadable
  | some none => .error .noDefaultExport
  | some (some (.object start properties)) => ofProperties { objectStart := start } properties
  | some (some _) => .error .notAnObject

/-- The outline of a script. -/
def ofScript (typed : Bool) (body : List Char) : Except ScriptFault Outline :=
  ofModule (Source.read typed body)

end Outline

end Widgetry.Component
