import Widgetry.Component.Language
import Widgetry.Component.Outline
import Widgetry.Component.Section
import Widgetry.Script.Parts

/-! Generated code in a component's script: the imports go behind the opening tag, and the mixin is
made the first mixin of the default export. -/

namespace Widgetry.Component

/-- A script block whose default export is known. -/
structure ScriptBlock where
  block : Block
  outline : Outline
  deriving DecidableEq

namespace ScriptBlock

/-- The first script block of a text. -/
def ofText (text : String) : Except Fault ScriptBlock :=
  match scriptBlock? text with
  | none => .error (.of (.script .noBlock))
  | some b =>
    match Outline.ofScript (declares "ts" (String.ofList b.opening)) b.body with
    | .ok outline => .ok ⟨b, outline⟩
    | .error fault => .error (.of (.script fault))

/-- The first character of the body that an insertion replaces, and the first that it keeps. -/
def gap (s : ScriptBlock) : Nat × Nat :=
  match s.outline.mixins with
  | some span => if span.empty then (span.start, span.stop) else (span.start + 1, span.start + 1)
  | none => (s.outline.objectStart + 1, s.outline.objectStart + 1)

/-- The code that is inserted for a mixin. -/
def insertion (s : ScriptBlock) (mixin : List Char) : List Char :=
  match s.outline.mixins with
  | some span => if span.empty then ['['] ++ mixin ++ [']'] else mixin ++ [',', ' ']
  | none => "\n  mixins: [".toList ++ mixin ++ [']', ',']

/-- The body with a mixin put in. -/
def splicedBody (s : ScriptBlock) (mixin : List Char) : List Char :=
  s.block.body.take s.gap.1 ++ s.insertion mixin ++ s.block.body.drop s.gap.2

/-- The block with generated code put in. -/
def splice (s : ScriptBlock) (parts : Script.Parts) : String :=
  String.ofList s.block.opening ++ "\n" ++ parts.importsCode ++
    String.ofList (s.splicedBody parts.mixinCode.toList) ++ String.ofList s.block.closing

end ScriptBlock

end Widgetry.Component
