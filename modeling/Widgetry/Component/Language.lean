import Widgetry.Text.Blank
import Widgetry.Text.Caseless
import Widgetry.Text.Word

/-! The language that a tag declares: `lang`, an equals sign and a quoted name, at the start of a
word and in letters of either case. -/

namespace Widgetry.Component

open Text (afterFolded? isBlank isWord)

def isQuote (c : Char) : Bool := c == '"' || c == '\''

/-- A quoted name at the head of a text; the two quotes may differ. -/
def quotedAt (name : List Char) : List Char → Bool
  | [] => false
  | c :: s => isQuote c && ((afterFolded? name s).bind List.head?).any isQuote

/-- A declaration of the language at the head of a text. -/
def declarationAt (language s : List Char) : Bool :=
  match afterFolded? "lang".toList s with
  | none => false
  | some s =>
    match s.dropWhile isBlank with
    | '=' :: s => quotedAt language (s.dropWhile isBlank)
    | _ => false

/-- A declaration of the language somewhere in a text; `inWord` says whether a word character
stands in front. -/
def declaresFrom (language : List Char) : (inWord : Bool) → List Char → Bool
  | _, [] => false
  | inWord, c :: s =>
    (!inWord && declarationAt language (c :: s)) || declaresFrom language (isWord c) s

/-- A text declares a language. -/
def declares (language text : String) : Bool := declaresFrom language.toList false text.toList

/-- The attributes of a template that is compiled. -/
def isCompiledTemplate (attributes : String) : Bool := declares "blui" attributes

end Widgetry.Component
