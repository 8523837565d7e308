import Widgetry.Text.Blank
import Widgetry.Text.Caseless
import Widgetry.Text.Word

/-! Sections of a component source. The template reaches from the first opening tag to the last
closing tag of its name, so that templates may nest. The script is the first script block, and the
styles are all style blocks; such a block ends at the first closing tag, in letters of either
case. -/

namespace Widgetry.Component

open Text (after? afterFolded? endsWord isBlank)

/-- A block of a source, from its opening tag to its closing tag. -/
structure Block where
  /-- The number of characters in front. -/
  start : Nat
  opening : List Char
  body : List Char
  closing : List Char
  deriving DecidableEq

namespace Block

def characters (b : Block) : List Char := b.opening ++ b.body ++ b.closing

def text (b : Block) : String := String.ofList b.characters

end Block

/-- The text before the first place at which `word` stands, in letters of either case. -/
def beforeFirst? (word : List Char) : List Char → Option (List Char)
  | [] => if word.isEmpty then some [] else none
  | c :: s =>
    if (afterFolded? word (c :: s)).isSome then some []
    else (beforeFirst? word s).map (c :: ·)

/-- The text before the last place at which `word` stands. -/
def beforeLast? (word : List Char) : List Char → Option (List Char)
  | [] => if word.isEmpty then some [] else none
  | c :: s =>
    match beforeLast? word s with
    | some before => some (c :: before)
    | none => if (after? word (c :: s)).isSome then some [] else none

/-- The attributes of a tag whose name was just passed, and the text behind the tag. -/
def tagRest? (s : List Char) : Option (List Char × List Char) :=
  if endsWord s then
    match s.dropWhile (· ≠ '>') with
    | _ :: behind => some (s.takeWhile (· ≠ '>'), behind)
    | [] => none
  else none

/-- The block of a tag at the head of a text. -/
def blockAt? (tag : List Char) (start : Nat) (s : List Char) : Option Block := do
  let rest ← afterFolded? ('<' :: tag) s
  let (attributes, behind) ← tagRest? rest
  let body ← beforeFirst? (['<', '/'] ++ tag ++ ['>']) behind
  return {
    start, body
    opening := s.take (tag.length + attributes.length + 2)
    closing := (behind.drop body.length).take (tag.length + 3) }

/-- The blocks of a tag, one after the other, once `skip` characters are passed over. -/
def blocksFrom (tag : List Char) : (start skip : Nat) → List Char → List Block
  | _, _, [] => []
  | start, skip + 1, _ :: s => blocksFrom tag (start + 1) skip s
  | start, 0, c :: s =>
    match blockAt? tag start (c :: s) with
    | some b => b :: blocksFrom tag (start + 1) (b.characters.length - 1) s
    | none => blocksFrom tag (start + 1) 0 s

/-- The blocks of a tag. -/
def blocks (tag : String) (source : String) : List Block := blocksFrom tag.toList 0 0 source.toList

/-- The template of a source. -/
structure TemplateSection where
  /-- The number of characters in front. -/
  start : Nat
  /-- The attributes of the opening tag. -/
  attributes : String
  /-- The whole section, tags included. -/
  markup : String
  deriving DecidableEq

/-- The template at the head of a text. -/
def templateAt? (start : Nat) (s : List Char) : Option TemplateSection := do
  let rest ← after? "<template".toList s
  let (attributes, behind) ← tagRest? rest
  let body ← beforeLast? "</template>".toList behind
  return {
    start
    attributes := String.ofList (Text.trim attributes)
    markup := String.ofList
      (s.take ("<template".length + attributes.length + 1 + body.length + "</template>".length)) }

/-- The first template of a text. -/
def templateFrom? : (start : Nat) → List Char → Option TemplateSection
  | _, [] => none
  | start, c :: s => (templateAt? start (c :: s)).or (templateFrom? (start + 1) s)

structure Sections where
  template : Option TemplateSection
  script : Option Block
  styles : List Block
  deriving DecidableEq

/-- The first script block of a text. -/
def scriptBlock? (source : String) : Option Block := (blocks "script" source).head?

/-- The sections of a source. -/
def sections (source : String) : Sections where
  template := templateFrom? 0 source.toList
  script := scriptBlock? source
  styles := blocks "style" source

end Widgetry.Component
