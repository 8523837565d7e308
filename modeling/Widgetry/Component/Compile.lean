import Widgetry.Compile
import Widgetry.Component.Splice

/-! Compilation of whole components. The template is compiled if it declares the language of this
compiler; the script gets the generated code, and styles stay as they are. -/

namespace Widgetry.Component

/-- The script of a component that brings none. -/
def defaultScript : String :=
  "<script>\n" ++ r"export default {" ++ "\n  mixins: [],\n" ++ r"}" ++ "\n</script>"

/-- The sections of a compiled component, put together. -/
def assemble (template script : String) (styles : List String) : String :=
  template ++ "\n" ++ script ++ "\n" ++ String.intercalate "\n" styles ++ "\n"

/-- Compiles a component; nothing if its template is in another language. The root is hosted if the
script extends another component, unless the options say so or not. -/
def compile (o : Options) (source : String) : Except Fault (Option String) :=
  let s := sections source
  match s.template with
  | none => .ok none
  | some template =>
    if !isCompiledTemplate template.attributes then .ok none
    else do
      let script ← ScriptBlock.ofText ((s.script.map (·.text)).getD defaultScript)
      let hosted := o.hosted.getD script.outline.declaresExtends
      let compiled ← compileMarkup { o with hosted := some hosted } template.markup
      return some (assemble compiled.template (script.splice compiled.script.parts)
        (s.styles.map (·.text)))

end Widgetry.Component
