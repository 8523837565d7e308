import Widgetry.Markup.Block
import Widgetry.Markup.Reference

/-! Tags of a markup text. The scanner is a state machine that takes one character at a time, so a
text of any form has a reading: a tag cut off by the end of the text counts as complete, and
whatever is no tag is passed over. -/

namespace Widgetry.Markup

/-- A written name, split at its colon if it has exactly one and that one is inside. -/
structure Name where
  qualifier : Option String
  base : String
  deriving DecidableEq

namespace Name

def ofText (text : String) : Name :=
  let qualifier := text.toList.takeWhile (· ≠ ':')
  let base := text.toList.drop (qualifier.length + 1)
  if qualifier.isEmpty || base.isEmpty || base.contains ':' then ⟨none, text⟩
  else ⟨some (String.ofList qualifier), String.ofList base⟩

/-- The name of a namespace declaration. -/
def declares (name : Name) : Bool := name.base == "xmlns" || name.qualifier == some "xmlns"

end Name

/-- An attribute as the tag has it, its name still in two parts. -/
structure TagAttribute where
  name : Name
  value : String
  deriving DecidableEq

/-- A tag: it opens an element (and closes it again if `closed`), closes the named element, or
closes whatever element is open. -/
inductive Token where
  | opening (name : Name) (attributes : List TagAttribute) (closed : Bool)
  | closing (name : Name)
  | closingCurrent
  deriving DecidableEq

/-- Where the scanner stands. -/
inductive Mode where
  | text
  | tag
  | closeTag
  | openName
  | closeName
  | closeRest
  | slash
  | beforeAttribute
  | attributeName
  | afterAttribute
  | beforeValue
  /-- In a value, up to its mark if it is quoted. -/
  | value (mark : Option Char)
  | reference (mark : Option Char) (reading : Reference)
  | instruction
  | instructionBody
  | instructionEnd
  | declaration (seen : List Char)
  | skipped
  | commentStart
  | commentStartDash
  | comment
  | commentDash
  | commentEnd
  | commentBang
  | data
  | dataBracket
  | dataEnd
  deriving DecidableEq

/-- The scanner: its mode, the tag being read and the tags read, the latest first. -/
structure Scan where
  mode : Mode := .text
  /-- The name of the tag, its latest character first. -/
  name : List Char := []
  closed : Bool := false
  attributes : List TagAttribute := []
  /-- The name of the attribute, its latest character first. -/
  key : List Char := []
  /-- The value of the attribute, its latest character first. -/
  value : List Char := []
  intake : Intake := .verbatim
  tokens : List Token := []

def isSpace (c : Char) : Bool := c == ' ' || c == '\t' || c == '\n'

namespace Scan

def enter (s : Scan) (mode : Mode) : Scan := { s with mode }

/-- Adds the attribute that was read to the tag. One whose written name is the base name of an
earlier attribute is dropped; a value without a name is kept for the next name. -/
def finishAttribute (s : Scan) : Scan :=
  if s.key.isEmpty then s
  else
    let text := String.ofList s.key.reverse
    if s.attributes.any (·.name.base == text) then { s with key := [], value := [] }
    else
      let a : TagAttribute := ⟨.ofText text, String.ofList s.value.reverse⟩
      { s with
        key := [], value := [],
        attributes := if a.name.declares then a :: s.attributes else s.attributes ++ [a] }

/-- The tag is complete. -/
def emitOpen (s : Scan) : Scan :=
  let s := s.finishAttribute
  let tag := Token.opening (.ofText (String.ofList s.name.reverse)) s.attributes s.closed
  { s with mode := .text, tokens := tag :: s.tokens, attributes := [], name := [], closed := false }

def emitClose (s : Scan) : Scan :=
  { s with
    mode := .text, name := [],
    tokens := .closing (.ofText (String.ofList s.name.reverse)) :: s.tokens }

def startAttribute (s : Scan) (c : Char) : Scan :=
  { s.finishAttribute with mode := .attributeName, key := [c] }

/-- A slash inside a tag closes its element. -/
def markClosed (s : Scan) : Scan := { s with mode := .slash, closed := true }

def inText (s : Scan) (c : Char) : Scan := s.enter (if c = '<' then .tag else .text)

def inSkipped (s : Scan) (c : Char) : Scan := s.enter (if c = '>' then .text else .skipped)

def inBeforeValue (s : Scan) (c : Char) : Scan :=
  let s := { s with intake := .verbatim }
  if isSpace c then s.enter .beforeValue
  else if c = '"' ∨ c = '\'' then s.enter (.value (some c))
  else if c = '>' then s.emitOpen
  else if c = '&' then s.enter (.reference none .start)
  else { s with mode := .value none, value := c :: s.value }

/-- After `<!`: a comment, character data, or a declaration to pass over. -/
def inDeclaration (s : Scan) (seen : List Char) (c : Char) : Scan :=
  let seen := seen ++ [c]
  let raised := seen.map Char.toUpper
  if seen = ['-', '-'] then s.enter .commentStart
  else if raised = "[CDATA[".toList then s.enter .data
  else if seen = ['-'] ∨ raised.isPrefixOf "[CDATA[".toList then s.enter (.declaration seen)
  else s.inSkipped c

/-- One character outside attribute values. -/
def stepMarkup (s : Scan) (c : Char) : Scan :=
  match s.mode with
  | .text => s.inText c
  | .tag =>
    if c = '!' then s.enter (.declaration [])
    else if c = '/' then s.enter .closeTag
    else if c = '?' then s.enter .instruction
    else if isSpace c ∨ c = ':' ∨ c = '<' ∨ c = '>' then s.inText c
    else { s with mode := .openName, name := [c], closed := false, attributes := [] }
  | .closeTag =>
    if c = '>' then { s with mode := .text, tokens := .closingCurrent :: s.tokens }
    else if isSpace c ∨ c = '<' ∨ c = ':' then s.inText c
    else { s with mode := .closeName, name := [c] }
  | .openName =>
    if isSpace c then s.enter .beforeAttribute
    else if c = '>' then s.emitOpen
    else if c = '/' then s.markClosed
    else { s with name := c :: s.name }
  | .closeName =>
    if isSpace c ∨ c = '/' then s.enter .closeRest
    else if c = '>' then s.emitClose
    else { s with name := c :: s.name }
  | .closeRest => if c = '>' then s.emitClose else s
  | .slash => if c = '>' then s.emitOpen else s.inBeforeValue c
  | .beforeAttribute =>
    if isSpace c ∨ c = ':' then s
    else if c = '>' then s.emitOpen
    else if c = '/' then s.markClosed
    else s.startAttribute c
  | .attributeName =>
    if c = '=' then s.enter .beforeValue
    else if c = '>' then s.emitOpen
    else if isSpace c then s.enter .afterAttribute
    else if c = '/' then s.markClosed
    else { s with key := c :: s.key }
  | .afterAttribute =>
    if isSpace c then s
    else if c = '=' then s.enter .beforeValue
    else if c = '>' then s.emitOpen
    else if c = '/' then s.markClosed
    else s.startAttribute c
  | .beforeValue => s.inBeforeValue c
  | .value _ | .reference _ _ => s
  | .instruction => s.enter (if isSpace c then .skipped else .instructionBody)
  | .instructionBody => s.enter (if c = '?' then .instructionEnd else .instructionBody)
  | .instructionEnd => s.enter (if c = '>' then .text else .instructionEnd)
  | .declaration seen => s.inDeclaration seen c
  | .skipped => s.inSkipped c
  | .commentStart =>
    s.enter (if c = '-' then .commentStartDash else if c = '>' then .text else .comment)
  | .commentStartDash =>
    s.enter (if c = '-' then .commentEnd else if c = '>' then .text else .comment)
  | .comment => s.enter (if c = '-' then .commentDash else .comment)
  | .commentDash => s.enter (if c = '-' then .commentEnd else .comment)
  | .commentEnd =>
    s.enter (if c = '>' then .text else if c = '!' then .commentBang
      else if c = '-' then .commentEnd else .comment)
  | .commentBang =>
    s.enter (if c = '-' then .commentDash else if c = '>' then .text else .comment)
  | .data => s.enter (if c = ']' then .dataBracket else .data)
  | .dataBracket => s.enter (if c = ']' then .dataEnd else .data)
  | .dataEnd => s.enter (if c = '>' then .text else if c = ']' then .dataEnd else .data)

/-- One character of a value, as it is meant. -/
def inValue (s : Scan) (mark : Option Char) (c : Char) : Scan :=
  if c = '&' then s.enter (.reference mark .start)
  else if mark = some c ∨ (mark = none ∧ isSpace c) then s.enter .beforeAttribute
  else if mark = none ∧ c = '>' then s.emitOpen
  else { s with value := c :: s.value }

/-- One character of a value, as it is written. -/
def takeIn (s : Scan) (mark : Option Char) (c : Char) : Scan :=
  match s.intake with
  | .verbatim => s.inValue mark c
  | .afterReturn =>
    if c = '\n' then { s with intake := .normal } else takeNormal s mark c
  | .normal => takeNormal s mark c
where
  takeNormal (s : Scan) (mark : Option Char) (c : Char) : Scan :=
    let intake := if c = '\r' then .afterReturn else .verbatim
    { s with intake }.inValue mark (normal c)

/-- One character that is in no reference. -/
def stepPlain (s : Scan) (c : Char) : Scan :=
  match s.mode with
  | .value mark => s.takeIn mark c
  | _ => s.stepMarkup (normal c)

/-- One character. -/
def step (s : Scan) (c : Char) : Scan :=
  match s.mode with
  | .reference mark reading =>
    match reading.step mark.isSome c with
    | .more reading => s.enter (.reference mark reading)
    | .done characters again intake =>
      again.foldl stepPlain
        { s with mode := .value mark, value := characters.reverse ++ s.value, intake }
  | _ => s.stepPlain c

/-- One block of text. A byte order mark in front of it is no part of the text. -/
def stepBlock (s : Scan) (block : List Char) : Scan :=
  let characters :=
    match block with
    | '\uFEFF' :: rest => rest
    | all => all
  let s := characters.foldl step s
  if s.intake = .normal then { s with intake := .verbatim } else s

/-- The end of the text completes a tag that is open. -/
def finish (s : Scan) : Scan :=
  match s.mode with
  | .reference mark reading =>
    { s with value := (reading.finish mark.isSome).reverse ++ s.value }.emitOpen
  | .value _ | .openName | .slash | .beforeAttribute | .attributeName | .afterAttribute
  | .beforeValue => s.emitOpen
  | .closeName | .closeRest => s.emitClose
  | _ => s

end Scan

/-- The tags of a text in their order. -/
def tokens (text : List Char) : List Token :=
  ((blocks text).foldl Scan.stepBlock {}).finish.tokens.reverse

end Widgetry.Markup
