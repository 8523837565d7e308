import Widgetry.Source.Exchange

/-! Statements of a script module. -/

namespace Widgetry.Source

variable (go : Grammar) (c : Context)

/-! ### Variables -/

/-- Resources that are released at the end of a block are declared here. -/
def atUsing : Parser Bool := ahead do
  if c.awaits then
    if ← acceptWord "await" then guard !(← atNewline)
  expectWord "using"
  return (← atIdentifier c) && !(← atNewline)

/-- The keyword in front of resources. -/
def usingKeyword : Parser Unit := do
  let _ ← acceptWord "await"
  expectWord "using"

/-- Resources, each with a name and a value. -/
def usingStatement : Parser Unit := do
  usingKeyword
  let ds ← separated "," (declarator go c)
  semicolon
  guard (ds.all fun d => d.valued && !d.pattern)

/-- The word `let` is a name here and declares nothing. Where only a body may stand it declares
nothing at all. -/
def atPlainLet (isBody : Bool) : Parser Bool := ahead do
  expectWord "let"
  let l ← peek
  match l.token with
  | .mark m =>
    return binaryMarks.contains m || m = "=" || assignmentMarks.contains m ||
      [".", "(", ";"].contains m || (isBody && m ≠ "[")
  | .word w => return isBody || ["in", "instanceof"].contains w
  | _ => return isBody

/-! ### Loops -/

/-- A condition in brackets. -/
def bracketed : Parser Unit := do
  expect "("
  let _ ← go c.inner .expression
  expect ")"

/-- What is walked over by a `for` loop, up to the closing bracket. Only the values of something can
be awaited. -/
def iterated (awaited : Bool) : Parser Unit := do
  if ← acceptWord "of" then
    let _ ← go c.inner .assignment
  else
    guard !awaited
    expectWord "in"
    let _ ← go c.inner .expression
  expect ")"

/-- The condition and the step of a `for` loop, up to the closing bracket. -/
def counted : Parser Unit := do
  expect ";"
  if !(← atMark ";") then
    let _ ← go c.inner .expression
  expect ";"
  if !(← atMark ")") then
    let _ ← go c.inner .expression
  expect ")"

/-- A `for` loop goes on with what is walked over. -/
def atIterated : Parser Bool := atWords ["of", "in"]

/-- The head of a `for` loop behind declared variables, up to the closing bracket. -/
def forVariables (awaited : Bool) (keyword : String) : Parser Unit := do
  let ds ← separated "," (declarator go { c with withoutIn := true })
  if ← atIterated then iterated go c awaited
  else
    guard (!awaited && ds.all (·.complete keyword))
    counted go c

/-- The keyword of variables in the head of a `for` loop, if there is one. -/
def forKeyword? : Parser (Option String) := do
  let l ← peek
  let next := (lexeme l.rest).token
  match l.token with
  | .word "var" | .word "const" =>
    advance l
    return l.token.word?
  | .word "let" =>
    let declares : Bool :=
      match next with
      | .word w => w != "in"
      | .spelled _ => true
      | t => t = .mark "[" || t = .mark r"{"
    if declares then
      advance l
      return some "let"
    else return none
  | _ =>
    if (← atUsing c) && next ≠ .word "of" then
      usingKeyword
      return some "const"
    else return none

/-- The head of a `for` loop that starts with an expression. The first of these may not look like
the start of a declaration. -/
def forExpression (awaited : Bool) : Parser Unit := do
  let head := { c with withoutIn := true }
  let first ← peek
  let s ← go head .element
  if ← atWord "of" then
    guard (first.token ≠ .word "let")
    guard !(first.token = .word "async" && s.name && !awaited)
  if ← atIterated then
    guard s.assignable
    iterated go c awaited
  else
    guard !(s.pending || awaited)
    if ← accept "," then
      let _ ← separated "," (go head .assignment)
    counted go c

/-- The head of a `for` loop in brackets. -/
def forHead (awaited : Bool) : Parser Unit := do
  expect "("
  if ← atMark ";" then
    guard !awaited
    return ← counted go c
  match ← forKeyword? c with
  | some keyword => forVariables go c awaited keyword
  | none => forExpression go c awaited

/-! ### Other statements -/

/-- The cases of a `switch`, in braces. -/
def cases : Parser Unit := do
  expect r"{"
  loop (fun _ => do
    if ← accept r"}" then return .done ()
    if ← acceptWord "case" then
      let _ ← go c.inner .expression
    else expectWord "default"
    expect ":"
    loop (fun _ => do
      if (← atWords ["case", "default"]) || (← atMark r"}") then return .done (.again ())
      let _ ← go c .statement
      return .again ()) ()) ()

/-- A `try` statement, read from behind its keyword. -/
def tryRest : Parser Unit := do
  block go c
  let caught ← acceptWord "catch"
  if caught then
    if ← accept "(" then
      let _ ← go c .binding
      let _ ← typeOf? go c
      expect ")"
    block go c
  let finished ← acceptWord "finally"
  if finished then block go c
  guard (caught || finished)

/-- A label that a jump may name on the same line. -/
def jumpRest : Parser Unit := do
  if (← atIdentifier c) && !(← atNewline) then
    let _ ← identifier c
  semicolon

/-- A value that is returned, and the end of the statement. -/
def returnRest : Parser Unit := do
  guard c.inFunction
  if !(← either (atMark ";") atStatementEnd) then
    let _ ← go c .expression
  semicolon

/-- An expression, or the label of a statement. -/
def expressionStatement : Parser Unit := do
  let s ← go c .expression
  let labelled ← if s.name then accept ":" else pure false
  if labelled then
    let _ ← go c .body
  else semicolon

/-- The body of a loop or of a condition. -/
def bodyRest : Parser Unit := do let _ ← go c .body

/-- Statements that declare nothing, by their first word. -/
def wordStatement? (word : String) : Option (Parser Unit) :=
  match word with
  | "if" => some do
    bracketed go c
    bodyRest go c
    if ← acceptWord "else" then bodyRest go c
  | "for" => some do
    let awaited ← acceptWord "await"
    guard (!awaited || c.awaits)
    forHead go c awaited
    bodyRest go c
  | "while" | "with" => some do
    bracketed go c
    bodyRest go c
  | "do" => some do
    bodyRest go c
    expectWord "while"
    bracketed go c
    let _ ← accept ";"
  | "return" => some (returnRest go c)
  | "break" | "continue" => some (jumpRest c)
  | "throw" => some do
    guard !(← atNewline)
    let _ ← go c .expression
    semicolon
  | "try" => some (tryRest go c)
  | "switch" => some do
    bracketed go c
    cases go c
  | "debugger" => some semicolon
  | _ => none

/-- A statement that declares nothing. -/
def plainStatement : Parser Shape := do
  let l ← peek
  match l.token with
  | .mark ";" => advance l
  | .mark r"{" =>
    advance l
    statementsRest go c
  | .word w =>
    match wordStatement? go c w with
    | some rest =>
      advance l
      rest
    | none => expressionStatement go c
  | _ => expressionStatement go c
  return {}

/-- A function that is a statement; where only a body may stand it is an ordinary one. -/
def functionStatement (isBody : Bool) : Parser Shape := do
  let awaits ← acceptWord "async"
  expectWord "function"
  let (names, yields) ← functionDeclaration go c awaits true
  guard !(isBody && (awaits || yields))
  return { names }

/-- A class behind decorators. -/
def decoratedClass : Parser Shape := do
  let _ ← decorators go c
  if c.typed then
    let _ ← acceptWord "abstract"
  expectWord "class"
  go c .classRest

/-- A statement among others, or one that is a body. A body declares nothing but variables for the
whole function, and functions. -/
def anyStatement (isBody : Bool) : Parser Shape := do
  if let some _ ← exchange? go c then return {}
  if ← atPlainLet isBody then return ← plainStatement go c
  if ← atFunction then return ← functionStatement go c isBody
  if ← acceptWord "var" then return ← variablesRest go c "var"
  if ← atTypedDeclaration c then return ← typedDeclaration go c
  let l ← peek
  match l.token with
  | .word "const" => if isBody && c.typed then constantEnum else notBody (declaration go c)
  | .word "let" => notBody do
    advance l
    variablesRest go c "let"
  | .word "class" => notBody do
    advance l
    go c .classRest
  | .mark "@" => notBody (decoratedClass go c)
  | _ =>
    if ← atUsing c then
      notBody do
        usingStatement go c
        return {}
    else plainStatement go c
where
  notBody (p : Parser Shape) : Parser Shape := do
    guard !isBody
    p
  constantEnum : Parser Shape := do
    expectWord "const"
    expectWord "enum"
    enumRest go c
    return {}

end Widgetry.Source
