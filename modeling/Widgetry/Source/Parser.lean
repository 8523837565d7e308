import Widgetry.Source.Token

/-! Recognition of a script module by recursive descent. A rule of the grammar gets the whole
grammar as an argument and uses it where it refers to a nonterminal, so that the recursion is tied
in one place and no rule is recursive in itself. -/

namespace Widgetry.Source

/-- Where a parser stands: the length of the whole text, what is left of it behind the last token,
and the token that comes next. -/
structure Position where
  size : Nat
  rest : List Char
  next : Lexeme

/-- The start of a text. -/
def Position.start (size : Nat) (text : List Char) : Position := ⟨size, text, lexeme text⟩

/-- What has been found out about a text, also on ways that led nowhere: at which places, counted
from the end, no arrow function starts. -/
structure Notes where
  noArrow : List Nat := []

abbrev Parser := StateT Position (OptionT (StateM Notes))

/-- An array literal in its text, from its opening bracket to behind the closing one. -/
structure ArraySpan where
  start : Nat
  stop : Nat
  empty : Bool
  deriving DecidableEq

/-- A property of an object literal: its name, if it is fixed, and its value, if that is an array
literal. -/
structure Property where
  name : Option String
  array : Option ArraySpan
  deriving DecidableEq

inductive Form where
  | array (span : ArraySpan)
  | object (start : Nat) (properties : List Property)
  | other
  deriving DecidableEq

/-- What the grammar has to know of an expression, a pattern or a declaration. -/
structure Shape where
  form : Form := .other
  /-- Nothing but a name. -/
  name : Bool := false
  /-- A name or a member. -/
  simple : Bool := false
  /-- May stand left of an assignment. -/
  assignable : Bool := false
  /-- May stand inside a pattern that is assigned. -/
  element : Bool := false
  /-- Holds a property with a default, which only patterns may. -/
  pending : Bool := false
  /-- Starts with an operator. -/
  operator : Bool := false
  /-- The names that are declared. -/
  names : List String := []

namespace Shape

/-- A member. -/
def target : Shape := { simple := true, assignable := true, element := true }

/-- A name. -/
def ofName : Shape := { target with name := true }

/-- The expression in brackets or with a type: only a name or a member can be assigned. -/
def wrapped (s : Shape) : Shape :=
  { simple := s.simple, assignable := s.simple, element := s.simple }

end Shape

/-- What is allowed where. -/
structure Context where
  typed : Bool
  inFunction : Bool := false
  awaits : Bool := true
  yields : Bool := false
  withoutIn : Bool := false
  /-- A colon behind brackets belongs to a conditional and not to an arrow function. -/
  withoutArrowType : Bool := false
  /-- Declarations describe something that is defined elsewhere. -/
  ambient : Bool := false
  /-- A square bracket does not belong to the expression. -/
  inDecorator : Bool := false
  /-- A type does not go on with a condition. -/
  withoutCondition : Bool := false
  /-- A question mark behind a type belongs to a tuple. -/
  inTuple : Bool := false

namespace Context

/-- Inside brackets, where `in` is an operator. -/
def inner (c : Context) : Context :=
  { c with
    withoutIn := false, withoutArrowType := false, inDecorator := false, inTuple := false }

/-- Inside a function. -/
def function (c : Context) (awaits yields : Bool) : Context :=
  { c.inner with inFunction := true, awaits, yields }

end Context

/-- The nonterminals through which rules refer to each other. A body is a statement that no
declaration may take the place of. -/
inductive Goal where
  | statement
  | body
  | expression
  | assignment
  | element
  | unary
  | member
  | primary
  | binding
  | functionBody
  | classRest
  | type
  | typeOperand
  | resultType

abbrev Grammar := Context → Goal → Parser Shape

/-! ### Combinators -/

/-- The result of a parser, or nothing if it fails. -/
def attempt {α : Type} (p : Parser α) : Parser (Option α) := fun s => OptionT.mk do
  match ← (p s).run with
  | some (a, s) => return some (some a, s)
  | none => return some (none, s)

/-- What a parser would find, without going on in the text. -/
def ahead (p : Parser Bool) : Parser Bool := do
  let before ← get
  let found ← attempt p
  set before
  return found.getD false

/-- The first of two tests that succeeds. -/
def either (p q : Parser Bool) : Parser Bool := do
  if ← p then return true else q

/-- A loop goes on with a state or ends with a result. -/
inductive Loop (α β : Type) where
  | again (a : α)
  | done (b : β)

def loopFor {α β : Type} (step : α → Parser (Loop α β)) : Nat → α → Parser β
  | 0, _ => failure
  | fuel + 1, a => do
    match ← step a with
    | .again a => loopFor step fuel a
    | .done b => return b

/-- Repeats a step. Every round but the last passes some text, so there are fewer rounds than
characters and two. -/
def loop {α β : Type} (step : α → Parser (Loop α β)) (a : α) : Parser β := do
  loopFor step ((← get).size + 2) a

/-! ### Tokens -/

def peek : Parser Lexeme := do return (← get).next

/-- Goes on with a later part of the text. -/
def moveTo (rest : List Char) : Parser Unit :=
  modify fun p => { p with rest, next := lexeme rest }

def advance (l : Lexeme) : Parser Unit := moveTo l.rest

/-- The offset of a later part of the text. -/
def offsetOf (rest : List Char) : Parser Nat := do return (← get).size - rest.length

/-- Passes a token if it is the next one. -/
def acceptToken (t : Token) : Parser Bool := do
  let l ← peek
  if l.token = t then
    advance l
    return true
  else return false

def accept (mark : String) : Parser Bool := acceptToken (.mark mark)

def acceptWord (word : String) : Parser Bool := acceptToken (.word word)

def expect (mark : String) : Parser Unit := do guard (← accept mark)

def expectWord (word : String) : Parser Unit := do guard (← acceptWord word)

def atMark (mark : String) : Parser Bool := do return (← peek).token = .mark mark

def atMarks (marks : List String) : Parser Bool := do
  match (← peek).token with
  | .mark m => return marks.contains m
  | _ => return false

def atWord (word : String) : Parser Bool := do return (← peek).token = .word word

def atWords (words : List String) : Parser Bool := do
  match (← peek).token with
  | .word w => return words.contains w
  | _ => return false

/-- A line break stands in front of the next token. -/
def atNewline : Parser Bool := do return (← peek).newline

def expectString : Parser String := do
  let l ← peek
  match l.token with
  | .string v =>
    advance l
    return v
  | _ => failure

/-- The next token starts with a closing angle bracket. -/
def atAngle : Parser Bool := do
  let l ← peek
  match l.token, l.here with
  | .mark _, '>' :: _ => return true
  | _, _ => return false

/-- Passes one closing angle bracket, which may be the start of a longer mark. -/
def closeAngle : Parser Unit := do
  guard (← atAngle)
  moveTo ((← peek).here.drop 1)

/-- Passes a word that does not stand on a new line. -/
def acceptWordHere (word : String) : Parser Bool := do
  if ← atNewline then return false else acceptWord word

/-- A statement may end here without a semicolon. -/
def atStatementEnd : Parser Bool := do
  let l ← peek
  return l.newline || l.token = .finish || l.token = .mark r"}"

/-- The end of a statement: a semicolon, a closing brace ahead, a line break or the end. -/
def semicolon : Parser Unit := do guard (← either (accept ";") atStatementEnd)

/-- Items up to a closing mark, with commas between them and possibly behind the last, and whether
there is one behind the last. -/
def commaList {α : Type} (closing : String) (item : Parser α) : Parser (List α × Bool) :=
  loop (fun (items : List α) => do
    if ← accept closing then return .done (items.reverse, !items.isEmpty)
    let items := (← item) :: items
    if ← accept "," then return .again items
    expect closing
    return .done (items.reverse, false)) []

/-- One item or more, with a mark between them. -/
def separated {α : Type} (mark : String) (item : Parser α) : Parser (List α) :=
  loop (fun (items : List α) => do
    let items := (← item) :: items
    if ← accept mark then return .again items else return .done items.reverse) []

/-! ### Names -/

/-- Words that are never names. -/
def reservedWords : List String :=
  ["break", "case", "catch", "class", "const", "continue", "debugger", "default", "delete", "do",
   "else", "enum", "export", "extends", "false", "finally", "for", "function", "if", "import", "in",
   "instanceof", "new", "null", "return", "super", "switch", "this", "throw", "true", "try",
   "typeof", "var", "void", "while", "with"]

def isReserved (c : Context) (word : String) : Bool :=
  reservedWords.contains word || (c.awaits && word == "await") || (c.yields && word == "yield")

/-- The text of a word. -/
def Token.word? : Token → Option String
  | .word w | .spelled w => some w
  | _ => none

/-- Any word. -/
def anyWord : Parser String := do
  let l ← peek
  match l.token.word? with
  | some w =>
    advance l
    return w
  | none => failure

/-- The next token is a name of the program. -/
def atIdentifier (c : Context) : Parser Bool := do
  match (← peek).token.word? with
  | some w => return !isReserved c w
  | none => return false

/-- A name of the program. -/
def identifier (c : Context) : Parser String := do
  guard (← atIdentifier c)
  anyWord

/-- The token starts the name of a member. -/
def Token.startsName : Token → Bool
  | .word _ | .spelled _ | .privateName _ | .string _ | .number => true
  | .mark m => m == "["
  | _ => false

/-- The token may follow a modifier. -/
def Token.followsModifier : Token → Bool
  | .mark m => ["[", r"{", "*", "..."].contains m
  | t => t.startsName

/-- Passes a modifier: one of these words in front of a member on the same line. -/
def acceptModifier (words : List String) : Parser (Option String) := do
  let l ← peek
  match l.token with
  | .word w =>
    let next := lexeme l.rest
    if words.contains w && !next.newline && next.token.followsModifier then
      advance l
      return some w
    else return none
  | _ => return none

/-- Passes the word in front of an accessor of a member. -/
def acceptAccessor : Parser (Option String) := do
  let l ← peek
  match l.token with
  | .word w =>
    if (w == "get" || w == "set") && (lexeme l.rest).token.startsName then
      advance l
      return some w
    else return none
  | _ => return none

end Widgetry.Source
