import Widgetry.Source.Expression

/-! Statement lists, function declarations and classes. -/

namespace Widgetry.Source

variable (go : Grammar) (c : Context)

/-- Statements up to a closing brace. -/
def statementsRest : Parser Unit :=
  loop (fun _ => do
    if ← accept r"}" then return .done ()
    let _ ← go c .statement
    return .again ()) ()

/-- Statements in braces. -/
def block : Parser Unit := do
  expect r"{"
  statementsRest go c

def functionBody : Parser Shape := do
  block go c
  return {}

/-- The body of a function that may also do without, in typed scripts. What is only described has
none. -/
def bodyOrNone (described : Bool) : Parser Unit := do
  if ← atMark r"{" then
    guard !described
    let _ ← go c .functionBody
  else
    guard c.typed
    semicolon

/-- A declared function, read from behind its keyword: its name, if it has one, and whether it is a
generator. -/
def functionDeclaration (awaits named : Bool) : Parser (List String × Bool) := do
  let yields ← accept "*"
  let names ← if ← atIdentifier c then pure [← identifier c] else pure []
  guard (!named || !names.isEmpty)
  let inside := c.function awaits yields
  functionHead go inside .method
  bodyOrNone go inside c.ambient
  return (names, yields)

/-! ### Members of a class -/

/-- Words in front of a member of a class, each with those that may not stand before it. -/
def memberModifierRules : List (String × List String) :=
  [("declare", ["override", "accessor"]),
   ("public", ["public", "private", "protected", "override", "static", "accessor", "readonly",
     "abstract"]),
   ("private", ["public", "private", "protected", "override", "static", "accessor", "readonly",
     "abstract"]),
   ("protected", ["public", "private", "protected", "override", "static", "accessor", "readonly",
     "abstract"]),
   ("static", ["readonly", "accessor", "abstract", "override"]),
   ("override", ["declare", "readonly", "accessor"]),
   ("abstract", ["static", "private", "override", "accessor"]),
   ("readonly", ["accessor"]),
   ("accessor", ["readonly", "declare"])]

/-- The next modifier of a member; `static` may stand on a line of its own, but only once. -/
def nextModifier (words seen : List String) : Parser (Option String) := do
  let l ← peek
  if l.token = .word "static" then
    if seen.contains "static" || !(lexeme l.rest).token.followsModifier then return none
    advance l
    return some "static"
  else acceptModifier words

/-- The modifiers of a member of a class. Scripts without types have two. -/
def memberModifiers : Parser (List String) := do
  let words :=
    if c.typed then (memberModifierRules.map Prod.fst).filter (· ≠ "static") else ["accessor"]
  loop (fun (seen : List String) => do
    match ← nextModifier words seen with
    | none => return .done seen
    | some w =>
      guard !seen.contains w
      guard !((memberModifierRules.lookup w).getD []).any seen.contains
      return .again (w :: seen)) []

/-- The name of a member of a class. A private one is not called like the constructor, and says
enough about who may use it. -/
def classMemberName (modifiers : List String) : Parser MemberName := do
  let name ← memberName go c
  match name with
  | .privateName w =>
    guard (w ≠ "constructor")
    guard !(("abstract" :: "declare" :: accessWords).any modifiers.contains)
  | _ => pure ()
  return name

/-- A method or an accessor of a class, read from behind its name. -/
def classMethod (modifiers : List String) (name : MemberName) (awaits yields : Bool)
    (kind : FunctionKind) : Parser Unit := do
  let isStatic := modifiers.contains "static"
  guard !(["readonly", "declare", "accessor"].any modifiers.contains)
  guard !(isStatic && name = .plain "prototype")
  let creates := !isStatic && name = .plain "constructor"
  guard !(creates && (awaits || yields || kind ≠ .method))
  let described := modifiers.contains "abstract"
  guard !(described && awaits)
  let inside := c.function awaits yields
  functionHead go inside (if creates then .creation else kind)
  bodyOrNone go inside (described || c.ambient)

/-- A field of a class, read from behind its name. -/
def classField (modifiers : List String) (name : MemberName) : Parser Unit := do
  guard (name ≠ .plain "constructor")
  guard !(modifiers.contains "static" && name = .plain "prototype")
  let _ ← typeOf? go c
  let valued ← initialValue? go { c.function false false with inFunction := c.inFunction }
  guard !(valued && modifiers.contains "abstract")
  semicolon

/-- A member of a class behind its modifiers. -/
def classMemberRest (modifiers : List String) : Parser Unit := do
  match ← acceptAccessor with
  | some w =>
    let name ← classMemberName go c modifiers
    classMethod go c modifiers name false false (if w = "get" then .getter else .setter)
  | none =>
    let awaits := (← acceptModifier ["async"]).isSome
    let yields ← accept "*"
    let name ← classMemberName go c modifiers
    let optional ← if c.typed then accept "?" else pure false
    if yields || (← atMark "(") || (c.typed && (← atMark "<")) then
      classMethod go c modifiers name awaits yields .method
    else
      guard !awaits
      if c.typed && !optional && !(← atNewline) then
        let _ ← accept "!"
      classField go c modifiers name

def classMember : Parser Unit := do
  if ← accept ";" then return
  let decorated ← decorators go c
  if ← ahead (do expectWord "static"; atMark r"{") then
    guard !decorated
    expectWord "static"
    return ← block go { c.function true false with inFunction := false }
  let modifiers ← memberModifiers c
  if c.typed && (← atIndex c) then
    guard !decorated
    indexSignature go c
  else classMemberRest go { c with ambient := c.ambient || modifiers.contains "declare" } modifiers

/-- What a class is made from: one class, and in typed scripts the types that it implements. -/
def heritage : Parser Unit := do
  if ← acceptWord "extends" then
    let s ← go c .member
    guard !s.pending
    typeArguments? go c
  if c.typed then
    if ← acceptWord "implements" then
      let _ ← separated "," do
        qualifiedName
        typeArguments? go c

/-- A class, read from behind its keyword. -/
def classRest : Parser Shape := do
  let named := (← atIdentifier c) && !(← atWord "implements")
  let names ← if named then pure [← identifier c] else pure []
  let _ ← typeParameters? go c
  heritage go c
  expect r"{"
  loop (fun _ => do
    if ← accept r"}" then return .done ()
    classMember go c
    return .again ()) ()
  return { names }

end Widgetry.Source
