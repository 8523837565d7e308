/-! Script identifiers in ASCII, and the camel casing of declared names: `main_window` becomes
`mainWindow`. Only an underscore in front of a small letter is folded away. -/

namespace Widgetry.Text

/-- A character that may start an identifier. -/
def isIdentifierStart (c : Char) : Bool := c.isAlpha || c == '_' || c == '$'

/-- A character that may continue an identifier. -/
def isIdentifierPart (c : Char) : Bool := c.isAlphanum || c == '_' || c == '$'

/-- An identifier, as characters. -/
def identifierChars : List Char → Bool
  | [] => false
  | c :: cs => isIdentifierStart c && cs.all isIdentifierPart

/-- A letter, underscore or dollar sign, then letters, digits, underscores and dollar signs. -/
def isIdentifier (s : String) : Bool := identifierChars s.toList

/-- Camel casing of characters. -/
def camelChars : List Char → List Char
  | [] => []
  | [c] => [c]
  | c :: d :: cs =>
    if c = '_' ∧ d.isLower then d.toUpper :: camelChars cs else c :: camelChars (d :: cs)

/-- Every underscore in front of a small letter goes, and the letter is raised. -/
def camelCase (s : String) : String := String.ofList (camelChars s.toList)

end Widgetry.Text
