import Widgetry.Markup.Reader
import Widgetry.Registry.Builtin
import Widgetry.Registry.Decode
import Widgetry.Script.Extract
import Widgetry.Structure
import Widgetry.Template

/-! Compilation of markup: the tree is checked, then its template and its script are written.
Template and script are written independently and name instances alike. -/

namespace Widgetry

structure Options where
  /-- Whether the root is hosted; left open, a component decides. -/
  hosted : Option Bool := none
  /-- Replaces the registry that comes with the compiler. -/
  registry : Option Registry := none
  banner : Bool := true
  deriving DecidableEq

namespace Options

def decoder : Json.Decoder Options :=
  Json.Layout.decode
    { name := "CompileOptions"
      fields := [("extends", false), ("registry", false), ("banner", false)]
      put := fun key v o =>
        match key with
        | "extends" => do return { o with hosted := ← Json.Decoder.optional .bool v }
        | "registry" => do return { o with registry := ← Json.Decoder.optional .registry v }
        | "banner" => do return { o with banner := ← Json.Decoder.bool v }
        | _ => .ok o }
    {}

/-- The registry to compile with; one that a caller brings is checked first. -/
def checkedRegistry (o : Options) : Except Fault Registry :=
  match o.registry with
  | some r => do
    r.check
    return r
  | none => .ok .builtin

end Options

structure Compiled where
  template : String
  script : Script
  deriving DecidableEq

/-- Compiles the element inside a container. -/
def compile (o : Options) (container : Markup.Element) : Except Fault Compiled := do
  let r ← o.checkedRegistry
  let t ← Tree.ofContainer container (o.hosted.getD false)
  Structure.check r t
  let template ← Template.template r t o.banner
  let script ← Script.ofTree r t
  return ⟨template, script⟩

/-- Reads a markup text and compiles it. -/
def compileMarkup (o : Options) (text : String) : Except Fault Compiled := do
  compile o (← Markup.read text)

end Widgetry
