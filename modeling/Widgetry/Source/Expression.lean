import Widgetry.Source.TypeExpression

/-! Expressions of a script module. A literal that may still turn out to be a pattern is pending
until an assignment follows it, and nothing else may. -/

namespace Widgetry.Source

variable (go : Grammar) (c : Context)

/-! ### Functions -/

/-- How a function is written. -/
inductive FunctionKind where
  | method
  | getter
  | setter
  | creation
  deriving DecidableEq

/-- A getter has no parameters and a setter has one, which takes one argument; in typed scripts a
setter has neither a value for it nor a result. -/
def goodAccessor (kind : FunctionKind) (list : ParameterList) (hasResult : Bool) : Bool :=
  match kind with
  | .getter => list.count == 0
  | .setter => list.count == 1 && !list.variadic && !(c.typed && (list.valued || hasResult))
  | _ => true

/-- The generic parameters, the parameters and the result type of a function. -/
def functionHead (kind : FunctionKind) : Parser Unit := do
  let generic ← typeParameters? go c
  let list ← parameters go c (if kind = .creation then .creation else .plain)
  let hasResult ← resultType? go c
  guard (goodAccessor c kind list hasResult)
  guard !(kind = .creation && (generic || hasResult))

/-- The parameters, result type and body of a function. -/
def functionWhole (awaits yields : Bool) (kind : FunctionKind) : Parser Unit := do
  let c := c.function awaits yields
  functionHead go c kind
  let _ ← go c .functionBody

/-- A function in an expression, read from behind its keyword. -/
def functionExpression (awaits : Bool) : Parser Unit := do
  let yields ← accept "*"
  let inside := c.function awaits yields
  if ← atIdentifier inside then
    let _ ← identifier inside
  functionWhole go c awaits yields .method

/-! ### Literals -/

/-- The arguments of a call, read from behind the opening bracket. -/
def argumentsRest : Parser Unit := do
  let _ ← commaList ")" do
    let _ ← accept "..."
    go c.inner .assignment

/-- A part of an object or array literal. -/
structure Part where
  spread : Bool := false
  shape : Shape := {}

/-- The parts could be those of a pattern: only the last one takes the rest, no comma follows it,
and the rest of an object is no pattern. -/
def goodParts (inObject : Bool) (trailing : Bool) : List Part → Bool
  | [] => true
  | [p] =>
    if p.spread then !trailing && (if inObject then p.shape.simple else p.shape.assignable)
    else p.shape.element
  | p :: ps => !p.spread && p.shape.element && goodParts inObject trailing ps

/-- The shape of a literal of these parts. -/
def literalShape (form : Form) (parts : List Part) (fits : Bool) : Shape :=
  { form, assignable := fits, element := fits, pending := parts.any (·.shape.pending) }

/-- A method of an object literal, read from behind its name. -/
def objectMethod (name : MemberName) (awaits yields : Bool) (kind : FunctionKind) :
    Parser (Option Property × Part) := do
  functionWhole go c awaits yields kind
  return (some ⟨name.fixed?, none⟩, {})

/-- A property of an object literal that is no method, read from behind its name; `named` tells
whether the name alone would do. -/
def objectField (name : MemberName) (named : Bool) : Parser (Option Property × Part) := do
  if ← accept ":" then
    let shape ← go c.inner .element
    let array :=
      match shape.form with
      | .array span => some span
      | _ => none
    return (some ⟨name.fixed?, array⟩, { shape })
  guard named
  if ← accept "=" then
    let _ ← go c.inner .assignment
    return (some ⟨name.fixed?, none⟩, { shape := { Shape.ofName with pending := true } })
  else return (some ⟨name.fixed?, none⟩, { shape := .ofName })

/-- A member of an object literal. -/
def objectMember : Parser (Option Property × Part) := do
  if ← accept "..." then return (none, ⟨true, ← go c.inner .element⟩)
  match ← acceptAccessor with
  | some w =>
    let name ← propertyName go c
    objectMethod go c name false false (if w = "get" then .getter else .setter)
  | none =>
    let awaits := (← acceptModifier ["async"]).isSome
    let yields ← accept "*"
    let named ← atIdentifier c
    let name ← propertyName go c
    if yields || (← atMark "(") || (c.typed && (← atMark "<")) then
      objectMethod go c name awaits yields .method
    else
      guard !awaits
      objectField go c name named

/-- An object literal, read from behind its brace. -/
def objectRest (brace : Lexeme) : Parser Shape := do
  let start ← offsetOf brace.here
  let (members, trailing) ← commaList r"}" (objectMember go c)
  let parts := members.map Prod.snd
  return literalShape (.object start (members.filterMap Prod.fst)) parts
    (goodParts true trailing parts)

/-- An array literal, read from behind its bracket. A comma without an item in front leaves a
hole. -/
def arrayRest (bracket : Lexeme) : Parser Shape := do
  let start ← offsetOf bracket.here
  let (parts, trailing) ← loop (fun ((parts, trailing) : List Part × Bool) => do
    if ← accept "]" then return .done (parts.reverse, trailing)
    if ← accept "," then return .again ({ shape := .target } :: parts, false)
    let spread ← accept "..."
    let parts := ⟨spread, ← go c.inner .element⟩ :: parts
    if ← accept "," then return .again (parts, true)
    expect "]"
    return .done (parts.reverse, false)) ([], false)
  let stop ← offsetOf (← get).rest
  return literalShape (.array ⟨start, stop, parts.isEmpty⟩) parts (goodParts false trailing parts)

/-- A regular expression whose slash is the given token. -/
def regex (l : Lexeme) : Parser Unit := do
  match regexFrom false (l.here.drop 1) with
  | some rest => moveTo rest
  | none => failure

/-! ### Primary expressions -/

/-- What follows the keyword of an import that is an expression: a property, or a module and
possibly options. -/
def importExpression : Parser Unit := do
  if ← accept "." then
    if ← acceptWord "meta" then return
    guard (← either (acceptWord "source") (acceptWord "defer"))
  expect "("
  let _ ← go c.inner .assignment
  if ← accept "," then
    if !(← atMark ")") then
      let _ ← go c.inner .assignment
      let _ ← accept ","
  expect ")"

/-- Binary operators that are marks. -/
def binaryMarks : List String :=
  ["||", "&&", "??", "|", "^", "&", "==", "!=", "===", "!==", "<", ">", "<=", ">=", "<<", ">>",
   ">>>", "+", "-", "*", "/", "%", "**"]

/-- The token may start an expression. -/
def Token.startsExpression : Token → Bool
  | .word w => !reservedWords.contains w ||
      ["this", "super", "null", "true", "false", "function", "class", "new", "import", "delete",
       "typeof", "void"].contains w
  | .spelled _ | .privateName _ | .string _ | .number => true
  | .mark m =>
    ["`", "(", "[", r"{", "/", "/=", "+", "-", "~", "!", "++", "--", "<", "@"].contains m
  | _ => false

/-- Generic arguments behind an expression are such if a call or a template follows, or else
something that could not go on with a comparison. -/
def afterTypeArguments : Parser Bool := do
  let l ← peek
  match l.token with
  | .mark "(" | .mark "`" => return true
  | .mark "<" | .mark "+" | .mark "-" => return false
  | .mark m =>
    if m.startsWith ">" then return false
    return l.newline || binaryMarks.contains m || !l.token.startsExpression
  | .word w =>
    return l.newline || ["as", "satisfies", "instanceof"].contains w ||
      (w == "in" && !c.withoutIn) || !l.token.startsExpression
  | t => return l.newline || !t.startsExpression

/-- Generic arguments behind an expression. -/
def expressionTypeArguments : Parser Unit := do
  expect "<"
  loop (fun _ => do
    typeExpression go c.inner
    if ← accept "," then return .again () else return .done ()) ()
  guard !(← atMark ">=")
  closeAngle
  guard (← afterTypeArguments c)

/-- What has been read of members and calls. -/
structure Chain where
  shape : Shape
  /-- Behind an optional link. -/
  linked : Bool := false
  /-- Generic arguments were the last thing. -/
  generic : Bool := false

/-- The name of a member behind a point. -/
def pointed : Parser Unit := do
  let l ← peek
  match l.token with
  | .privateName _ | .word _ | .spelled _ => advance l
  | _ => failure

/-- What follows an optional link. -/
def optionalLink : Parser Unit := do
  if ← accept "[" then
    let _ ← go c.inner .expression
    expect "]"
  else if ← accept "(" then argumentsRest go c
  else if c.typed && (← atMark "<") then
    typeArguments go c
    expect "("
    argumentsRest go c
  else pointed

/-- One member, call or template behind an expression. -/
def chainStep (withCalls : Bool) (ch : Chain) : Parser (Loop Chain Shape) := do
  let l ← peek
  let member : Chain := { ch with shape := if ch.linked then {} else .target, generic := false }
  let called : Chain := { ch with shape := {}, generic := false }
  match l.token with
  | .mark "." =>
    guard !ch.generic
    advance l
    pointed
    return .again member
  | .mark "?." =>
    guard (withCalls && !ch.generic)
    advance l
    optionalLink go c
    return .again { called with linked := true }
  | .mark "[" =>
    if c.inDecorator then return .done ch.shape
    advance l
    let _ ← go c.inner .expression
    expect "]"
    return .again member
  | .mark "(" =>
    if !withCalls then return .done ch.shape
    advance l
    argumentsRest go c
    return .again called
  | .mark "`" =>
    guard !ch.linked
    advance l
    templateRest go c .expression true
    return .again called
  | .mark "!" =>
    if !c.typed || l.newline then return .done ch.shape
    advance l
    return .again { ch with shape := ch.shape.wrapped, generic := false }
  | .mark "<" =>
    if !c.typed then return .done ch.shape
    match ← attempt (expressionTypeArguments go c) with
    | some _ => return .again { called with generic := true }
    | none => return .done ch.shape
  | _ => return .done ch.shape

/-- Members, calls and templates behind an expression. Behind an optional link nothing can be
assigned, and a pending literal stays alone. -/
def chain (withCalls : Bool) (s : Shape) : Parser Shape :=
  loop (fun (ch : Chain) => do
    match ← chainStep go c withCalls ch with
    | .again next =>
      guard !s.pending
      return .again next
    | .done s => return .done s) { shape := s }

/-- A primary expression with its members and calls. -/
def member : Parser Shape := do chain go c true (← go c .primary)

/-- An expression that is constructed, read from behind `new`. -/
def newRest : Parser Shape := do
  if ← accept "." then
    expectWord "target"
    return {}
  guard !(← ahead (do expectWord "import"; atMark "("))
  let s ← chain go c false (← go c .primary)
  guard !s.pending
  if ← accept "(" then argumentsRest go c
  return {}

def primary : Parser Shape := do
  let l ← peek
  match l.token with
  | .number | .string _ =>
    advance l
    return {}
  | .mark "(" =>
    advance l
    let s ← go c.inner .expression
    expect ")"
    return s.wrapped
  | .mark "[" =>
    advance l
    arrayRest go c l
  | .mark r"{" =>
    advance l
    objectRest go c l
  | .mark "`" =>
    advance l
    templateRest go c .expression false
    return {}
  | .mark "/" | .mark "/=" =>
    regex l
    return {}
  | .mark "@" =>
    let _ ← decorators go c
    expectWord "class"
    let _ ← go c .classRest
    return {}
  | .word "this" | .word "null" | .word "true" | .word "false" =>
    advance l
    return {}
  | .word "super" =>
    advance l
    guard (← atMarks [".", "[", "("])
    return {}
  | .word "function" =>
    advance l
    functionExpression go c false
    return {}
  | .word "class" =>
    advance l
    let _ ← go c .classRest
    return {}
  | .word "new" =>
    advance l
    newRest go c
  | .word "import" =>
    advance l
    importExpression go c
    return {}
  | .word "async" =>
    advance l
    if ← acceptWordHere "function" then
      functionExpression go c true
      return {}
    else return .ofName
  | _ =>
    let _ ← identifier c
    return .ofName

/-! ### Operators -/

def prefixMarks : List String := ["+", "-", "~", "!"]

def prefixWords : List String := ["delete", "void", "typeof"]

/-- An expression with members and calls, and the operator behind it. -/
def postfixed : Parser Shape := do
  let s ← go c .member
  let l ← peek
  if !l.newline && (l.token = .mark "++" || l.token = .mark "--") then
    guard s.simple
    advance l
    return {}
  else return s

/-- An operand and the operator in front of it. -/
def prefixed (l : Lexeme) : Parser Shape := do
  advance l
  let s ← go c .unary
  guard !s.pending
  return { operator := true }

/-- An expression behind the type that it is said to have. -/
def assertion : Parser Shape := do
  expect "<"
  typeExpression go c.inner
  closeAngle
  let s ← go c .unary
  guard !s.pending
  return s.wrapped

def unary : Parser Shape := do
  let l ← peek
  match l.token with
  | .mark m =>
    if prefixMarks.contains m then prefixed go c l
    else if m = "++" || m = "--" then
      advance l
      let s ← go c .unary
      guard s.simple
      return {}
    else if c.typed && m = "<" then assertion go c
    else postfixed go c
  | .word w =>
    if prefixWords.contains w || (c.awaits && w = "await") then prefixed go c l
    else postfixed go c
  | _ => postfixed go c

/-- Operators that bind less tightly than a comparison of sizes. -/
def looseMarks : List String := ["||", "&&", "??", "|", "^", "&", "==", "!=", "===", "!=="]

/-- An operand of a binary operator. A private name is one only in front of `in`, and only if it is
`loose`: if no operator in front of it binds as tightly. -/
def operand (loose : Bool) : Parser Shape := do
  let l ← peek
  match l.token with
  | .privateName _ =>
    advance l
    guard (loose && !c.withoutIn && (← atWord "in"))
    return {}
  | _ => go c .unary

/-- What has been read of a binary expression: its shape, and which kinds of logical operators are
in it. -/
structure Operands where
  shape : Shape
  coalesces : Bool := false
  decides : Bool := false

/-- A binary operator and its right operand. -/
def binaryRest (o : Operands) (l : Lexeme) : Parser Shape := do
  guard !o.shape.pending
  advance l
  let right ← operand go c (looseMarks.any fun m => l.token = .mark m)
  guard !right.pending
  return { operator := right.operator }

/-- Operands and the operators between them. Two kinds of logical operators do not mix without
brackets, and a power does not start with an operator. -/
def binary : Parser Shape := do
  let first ← operand go c true
  loop (fun (o : Operands) => do
    let l ← peek
    match l.token with
    | .mark m =>
      if !binaryMarks.contains m then return .done o.shape
      let coalesces := o.coalesces || m == "??"
      let decides := o.decides || m == "||" || m == "&&"
      guard (!(coalesces && decides) && !(m == "**" && o.shape.operator))
      return .again ⟨← binaryRest go c o l, coalesces, decides⟩
    | .word w =>
      if w = "instanceof" || (w = "in" && !c.withoutIn) then
        return .again { o with shape := { ← binaryRest go c o l with operator := false } }
      else if c.typed && !l.newline && (w = "as" || w = "satisfies") then
        guard !o.shape.pending
        advance l
        if !(← acceptWord "const") then typeExpression go c.inner
        return .again { o with shape := o.shape.wrapped }
      else return .done o.shape
    | _ => return .done o.shape) { shape := first }

/-- A conditional, read from behind its question mark. -/
def conditionalRest : Parser Shape := do
  let _ ← go { c.inner with withoutArrowType := true } .assignment
  expect ":"
  let _ ← go c .assignment
  return {}

/-! ### Arrow functions -/

/-- What follows the arrow. -/
def arrowBody (awaits : Bool) : Parser Shape := do
  let inside := c.function awaits false
  if ← atMark r"{" then
    let _ ← go inside .functionBody
  else
    let _ ← go { inside with
      inFunction := c.inFunction, withoutIn := c.withoutIn,
      withoutArrowType := c.withoutArrowType } .assignment
  return {}

/-- An arrow on the same line. -/
def arrow : Parser Unit := do
  guard !(← atNewline)
  expect "=>"

/-- The parameters of an arrow function with brackets up to its arrow: whether the function is
asynchronous and whether its result has a type. -/
def arrowHead : Parser (Bool × Bool) := do
  let awaits ← acceptWord "async"
  let inside := { c.inner with awaits := c.awaits || awaits }
  let _ ← typeParameters? go inside
  let _ ← parameters go inside .arrow
  let hasResult ← resultType? go inside
  arrow
  return (awaits, hasResult)

/-- Brackets that may hold the parameters of an arrow function, judging from the first tokens. -/
def atArrowHead : Parser Bool := ahead do
  if ← acceptWord "async" then guard !(← atNewline)
  if c.typed && (← atMark "<") then return true
  expect "("
  let l ← peek
  match l.token with
  | .mark m => return [")", "[", r"{", "...", "@"].contains m
  | .word _ | .spelled _ =>
    advance l
    let next ← peek
    match next.token with
    | .mark m =>
      return [":", "?", ",", "=", ")"].contains m || (c.typed && ["[", r"{"].contains m)
    | t => return c.typed && t.word?.isSome
  | _ => return false

/-- Notes that no arrow function starts at a place. -/
def noteNoArrow (place : Nat) : Parser (Option Shape) := do
  modifyThe Notes fun notes => { notes with noArrow := place :: notes.noArrow }
  return none

/-- An arrow function with brackets, if there is one. Where a colon would end a conditional, a
function whose result has a type is one only in front of a further colon. -/
def bracketedArrow? : Parser (Option Shape) := do
  if !(← atArrowHead c) then return none
  let before ← get
  let place := before.next.here.length
  if (← getThe Notes).noArrow.contains place then return none
  match ← attempt (arrowHead go c) with
  | none => noteNoArrow place
  | some (awaits, hasResult) =>
    if !(c.withoutArrowType && hasResult) then return some (← arrowBody go c awaits)
    match ← attempt (do let s ← arrowBody go c awaits; guard (← atMark ":"); return s) with
    | some s => return some s
    | none =>
      set before
      noteNoArrow place

/-- An asynchronous arrow function without brackets starts here. -/
def atAsyncArrow : Parser Bool := ahead do
  expectWord "async"
  guard !(← atNewline)
  let _ ← identifier c
  atMark "=>"

/-! ### Assignments -/

/-- What follows `yield`. -/
def yieldRest : Parser Shape := do
  if ← atNewline then return {}
  if ← accept "*" then
    let _ ← go c .assignment
    return {}
  let l ← peek
  let ends :=
    l.token = .finish || l.token = .word "in" ||
      [";", r"}", ")", "]", ":", ","].any fun m => l.token = .mark m
  if !ends then
    let _ ← go { c with withoutArrowType := false } .assignment
  return {}

def assignmentMarks : List String :=
  ["+=", "-=", "*=", "/=", "%=", "**=", "<<=", ">>=", ">>>=", "&=", "|=", "^=", "&&=", "||=", "??="]

/-- What follows an expression without assignments. -/
def elementRest (s : Shape) : Parser Shape := do
  let l ← peek
  match l.token with
  | .mark "=>" =>
    guard s.name
    arrow
    arrowBody go c false
  | .mark "=" =>
    guard s.assignable
    advance l
    let _ ← go c .assignment
    return { element := true }
  | .mark "?" =>
    guard !s.pending
    advance l
    conditionalRest go c
  | .mark m =>
    if assignmentMarks.contains m then
      guard s.simple
      advance l
      let _ ← go c .assignment
      return {}
    else return s
  | _ => return s

/-- An assignment, an arrow function or an expression without either, possibly one that only makes
sense as a pattern. -/
def element : Parser Shape := do
  if c.yields then
    if ← acceptWord "yield" then return ← yieldRest go c
  match ← bracketedArrow? go c with
  | some s => return s
  | none =>
    if ← atAsyncArrow c then
      expectWord "async"
      let _ ← identifier c
      arrow
      arrowBody go c true
    else elementRest go c (← binary go c)

/-- An assignment that makes sense as an expression. -/
def assignment : Parser Shape := do
  let s ← go c .element
  guard !s.pending
  return s

/-- Assignments with commas between them. -/
def expression : Parser Shape := do
  let s ← go c .assignment
  if ← accept "," then
    let _ ← separated "," (go c .assignment)
    return {}
  else return s

end Widgetry.Source
