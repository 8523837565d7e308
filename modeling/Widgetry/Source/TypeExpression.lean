import Widgetry.Source.Binding

/-! Types in typed scripts: parameters and arguments of generic names, object and function types,
and the operators on types. -/

namespace Widgetry.Source

variable (go : Grammar) (c : Context)

/-- A type. -/
def typeExpression : Parser Unit := do let _ ← go c .type

/-! ### Generic names -/

/-- A generic parameter. -/
def typeParameter : Parser Unit := do
  loop (fun _ => do
    let l ← peek
    match l.token with
    | .word w =>
      if ["const", "in", "out"].contains w && (lexeme l.rest).token.word?.isSome then
        advance l
        return .again ()
      else return .done ()
    | _ => return .done ()) ()
  let _ ← identifier c
  if ← acceptWord "extends" then typeExpression go c
  if ← accept "=" then typeExpression go c

/-- One item or more up to a closing angle bracket, possibly with a comma behind the last. -/
def angleList (item : Parser Unit) : Parser Unit := do
  loop (fun _ => do
    item
    if ← accept "," then
      if ← atAngle then return .done () else return .again ()
    else return .done ()) ()
  closeAngle

/-- Generic parameters, in typed scripts. -/
def typeParameters? : Parser Bool := do
  if !c.typed then return false
  if ← accept "<" then
    angleList (typeParameter go c)
    return true
  else return false

/-- Generic arguments. -/
def typeArguments : Parser Unit := do
  expect "<"
  angleList (typeExpression go c.inner)

/-- Generic arguments on the same line, in typed scripts. -/
def typeArguments? : Parser Unit := do
  if c.typed && !(← atNewline) then
    if ← atMark "<" then typeArguments go c

/-- Names joined by points. -/
def qualifiedName : Parser Unit := do let _ ← separated "." anyWord

/-! ### Signatures -/

/-- A colon and the type of a result, in typed scripts; whether there is one. -/
def resultType? : Parser Bool := do
  if !c.typed then return false
  if ← accept ":" then
    let _ ← go c .resultType
    return true
  else return false

/-- Generic parameters, parameters and a result. -/
def signature : Parser Unit := do
  let _ ← typeParameters? go c
  let _ ← parameters go c .plain
  let _ ← resultType? go c

/-- The end of a member of an object type. -/
def memberEnd : Parser Unit := do
  if ← accept "," then return
  semicolon

/-- The next token starts the parameters of a member. -/
def atSignature : Parser Bool := atMarks ["(", "<"]

/-- A square bracket starts an index signature and no name. -/
def atIndex : Parser Bool := ahead do
  expect "["
  if ← atMarks ["...", "]"] then return true
  let _ ← identifier c
  if ← atMarks [":", ","] then return true
  expect "?"
  atMarks [":", ",", "]"]

/-- An index signature. -/
def indexSignature : Parser Unit := do
  expect "["
  let _ ← identifier c
  expect ":"
  typeExpression go c
  expect "]"
  guard (← typeOf? go c)
  memberEnd

/-! ### Object types -/

/-- A member of an object type. -/
def memberType : Parser Unit := do
  if ← atSignature then
    signature go c
    return ← memberEnd
  if ← ahead (do expectWord "new"; atSignature) then
    expectWord "new"
    signature go c
    return ← memberEnd
  let _ ← acceptModifier ["readonly"]
  if ← atIndex c then return ← indexSignature go c
  let _ ← acceptAccessor
  let _ ← propertyName go c
  let _ ← accept "?"
  if ← atSignature then signature go c
  else
    let _ ← typeOf? go c
  memberEnd

/-- The members of an object type between braces. -/
def objectType : Parser Unit := do
  expect r"{"
  loop (fun _ => do
    if ← accept r"}" then return .done ()
    memberType go c
    return .again ()) ()

/-- A plus or a minus, if there is one. -/
def sign? : Parser Bool := either (accept "+") (accept "-")

/-- A brace starts a type that is mapped over its keys. -/
def atMappedType : Parser Bool := ahead do
  expect r"{"
  if ← sign? then return ← atWord "readonly"
  let _ ← acceptWord "readonly"
  expect "["
  let _ ← anyWord
  atWord "in"

/-- A type that is mapped over its keys. -/
def mappedType : Parser Unit := do
  expect r"{"
  if ← sign? then expectWord "readonly"
  else
    let _ ← acceptWord "readonly"
  expect "["
  let _ ← identifier c
  expectWord "in"
  typeExpression go c
  if ← acceptWord "as" then typeExpression go c
  expect "]"
  if ← sign? then expect "?"
  else
    let _ ← accept "?"
  let _ ← typeOf? go c
  let _ ← accept ";"
  expect r"}"

/-! ### Types without operators -/

/-- An item of a tuple type, and whether it may be left out or has to be there. -/
inductive TupleItem where
  | required
  | optional
  | repeated
  deriving DecidableEq

def tupleItem : Parser TupleItem := do
  let repeated ← accept "..."
  let label ← attempt do
    let _ ← anyWord
    let optional ← accept "?"
    expect ":"
    return optional
  typeExpression go { c with inTuple := true }
  let optional ← accept "?"
  if repeated then
    guard (label != some true)
    return .repeated
  return if optional || label == some true then .optional else .required

/-- Behind an item that may be left out none has to be there. -/
def goodTuple : List TupleItem → Bool
  | [] => true
  | i :: is => !(i == .optional && is.contains .required) && goodTuple is

/-- A template whose holes are filled with a nonterminal, read from behind its backtick. Only behind
a tag may its escapes be bad. -/
def templateRest (goal : Goal) (tagged : Bool) : Parser Unit :=
  loop (fun _ => do
    match templateFrom true (← get).rest with
    | none => failure
    | some piece =>
      guard (tagged || piece.good)
      moveTo piece.rest
      if piece.closed then return .done ()
      let _ ← go c.inner goal
      expect r"}"
      return .again ()) ()

/-- A module that is named by a type, read from behind its keyword. -/
def importType : Parser Unit := do
  expect "("
  let _ ← expectString
  if ← accept "," then
    if !(← atMark ")") then
      let _ ← go c.inner .assignment
      let _ ← accept ","
  expect ")"
  if ← accept "." then qualifiedName

/-- A type without operators. -/
def primaryType : Parser Unit := do
  let l ← peek
  match l.token with
  | .string _ | .number => advance l
  | .mark "-" =>
    advance l
    guard (← acceptToken .number)
  | .mark "`" =>
    advance l
    templateRest go c .type false
  | .mark "(" =>
    advance l
    typeExpression go c.inner
    expect ")"
  | .mark "[" =>
    advance l
    let (items, _) ← commaList "]" (tupleItem go c.inner)
    guard (goodTuple items)
  | .mark r"{" => if ← atMappedType then mappedType go c.inner else objectType go c.inner
  | .mark "?" =>
    advance l
    if !(← atMarks [",", r"}", ")", ">", "=", "|"]) then typeExpression go c
  | .mark "!" =>
    advance l
    let _ ← go c .typeOperand
  | .word "typeof" =>
    advance l
    if ← acceptWord "import" then importType go c else qualifiedName
    typeArguments? go c
  | .word "import" =>
    advance l
    importType go c
    typeArguments? go c
  | .word "asserts" =>
    advance l
    let next ← peek
    if next.token.word?.isSome && !next.newline then
      let _ ← anyWord
      if ← acceptWordHere "is" then typeExpression go c
    else
      if ← accept "." then qualifiedName
      typeArguments? go c
  | .word _ | .spelled _ =>
    qualifiedName
    typeArguments? go c
  | _ => failure

/-! ### Operators on types -/

/-- The token may start a type. -/
def Token.startsType : Token → Bool
  | .word w => !reservedWords.contains w ||
      ["void", "null", "this", "typeof", "new", "true", "false", "import", "function"].contains w
  | .spelled _ | .string _ | .number => true
  | .mark m => [r"{", "[", "(", "<", "|", "&", "*", "?", "!", "...", "`", "-"].contains m
  | _ => false

/-- A type with what binds to it directly: brackets behind it, and marks of types that may be
missing. -/
def postfixType : Parser Unit := do
  primaryType go c
  loop (fun _ => do
    let l ← peek
    if l.newline then return .done ()
    match l.token with
    | .mark "[" =>
      advance l
      if (← peek).token.startsType then typeExpression go c.inner
      expect "]"
      return .again ()
    | .mark "!" =>
      advance l
      return .again ()
    | .mark "?" =>
      if c.inTuple || (lexeme l.rest).token.startsType then return .done ()
      advance l
      return .again ()
    | _ => return .done ()) ()

/-- A type that is inferred, read from behind its keyword. A constraint is not one if a condition
goes on behind it. -/
def inferRest : Parser Unit := do
  let _ ← identifier c
  let _ ← attempt do
    expectWord "extends"
    typeExpression go { c with withoutCondition := true }
    guard (c.withoutCondition || !(← atMark "?"))

/-- A type behind operators. -/
def typeOperand : Parser Shape := do
  let l ← peek
  match l.token with
  | .word "keyof" | .word "unique" | .word "readonly" =>
    advance l
    go c .typeOperand
  | .word "infer" =>
    advance l
    inferRest go c
    return {}
  | _ =>
    postfixType go { c with withoutCondition := false }
    return {}

/-- Types joined by a mark, which may also stand in front. -/
def joinedTypes (mark : String) (item : Parser Unit) : Parser Unit := do
  let _ ← accept mark
  let _ ← separated mark item

def unionType : Parser Unit :=
  joinedTypes "|" (joinedTypes "&" do let _ ← go c .typeOperand)

/-- Brackets start the parameters of a function type. -/
def atFunctionParameters : Parser Bool := ahead do
  expect "("
  if ← atMarks [")", "..."] then return true
  let _ ← acceptModifier ("readonly" :: accessWords)
  if ← atMarks ["[", r"{"] then
    let _ ← go c .binding
  else if !(← acceptWord "this") then
    let _ ← identifier c
  if ← atMarks [":", ",", "?", "="] then return true
  expect ")"
  atMark "=>"

/-- A function type starts here. -/
def atFunctionType : Parser Bool := do
  let l ← peek
  match l.token with
  | .mark "<" | .word "new" => return true
  | .mark "(" => atFunctionParameters go c
  | .word "abstract" => return (lexeme l.rest).token = .word "new"
  | _ => return false

/-- A function type. -/
def functionType : Parser Unit := do
  let _ ← acceptWord "abstract"
  let _ ← acceptWord "new"
  let _ ← typeParameters? go c
  let _ ← parameters go c .plain
  expect "=>"
  let _ ← go c .resultType

/-- A type with all its operators. -/
def fullType : Parser Shape := do
  if ← atFunctionType go c then
    functionType go c
    return {}
  unionType go c
  if !c.withoutCondition then
    if ← acceptWordHere "extends" then
      typeExpression go { c with withoutCondition := true }
      expect "?"
      typeExpression go { c with withoutCondition := false }
      expect ":"
      typeExpression go { c with withoutCondition := false }
  return {}

/-- A type that may be a statement about a parameter. -/
def resultType : Parser Shape := do
  let _ ← attempt do
    let _ ← anyWord
    guard (← acceptWordHere "is")
  fullType go c

end Widgetry.Source
