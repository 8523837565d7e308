import Widgetry.Source.Parser

/-! Names that are bound: the names of members, patterns and parameters. -/

namespace Widgetry.Source

variable (go : Grammar) (c : Context)

/-- A colon and a type, in typed scripts; whether there is one. -/
def typeOf? : Parser Bool := do
  if !c.typed then return false
  if ← accept ":" then
    let _ ← go c .type
    return true
  else return false

/-- An optional value behind an equals sign; whether there is one. -/
def initialValue? : Parser Bool := do
  if ← accept "=" then
    let _ ← go c .assignment
    return true
  else return false

/-! ### Names of members -/

/-- The name of a member. -/
inductive MemberName where
  | plain (name : String)
  | privateName (name : String)
  /-- A number. -/
  | numbered
  /-- An expression in brackets, with its value if it is a string. -/
  | computed (name : Option String)
  deriving DecidableEq

/-- The name, if it is fixed. -/
def MemberName.fixed? : MemberName → Option String
  | .plain name => some name
  | .computed name => name
  | _ => none

/-- The name of a member: a word, a literal or an expression in brackets. -/
def memberName : Parser MemberName := do
  let l ← peek
  match l.token with
  | .word w | .spelled w =>
    advance l
    return .plain w
  | .string v =>
    advance l
    return .plain v
  | .number =>
    advance l
    return .numbered
  | .privateName name =>
    advance l
    return .privateName name
  | .mark "[" =>
    advance l
    match ← attempt (do let v ← expectString; expect "]"; return v) with
    | some v => return .computed (some v)
    | none =>
      let _ ← go c.inner .assignment
      expect "]"
      return .computed none
  | _ => failure

/-- The name of a property of an object, which is not private. -/
def propertyName : Parser MemberName := do
  match ← memberName go c with
  | .privateName _ => failure
  | name => return name

/-! ### Patterns -/

/-- A pattern and its value where none is given. -/
def bindingElement : Parser Shape := do
  let s ← go c .binding
  let _ ← initialValue? go c.inner
  return s

/-- What follows the three points in a pattern: nothing but the closing mark stands behind it. -/
def bindingRest (closing : String) : Parser Shape := do
  let s ← go c .binding
  expect closing
  return s

/-- A property of an object pattern. -/
def bindingProperty : Parser (List String) := do
  let named ← atIdentifier c
  let name ← propertyName go c
  if ← accept ":" then return (← bindingElement go c).names
  match name with
  | .plain w =>
    guard named
    let _ ← initialValue? go c.inner
    return [w]
  | _ => failure

/-- An object pattern, read from behind its brace. The rest of an object has a plain name. -/
def objectPattern : Parser (List String) :=
  loop (fun (names : List String) => do
    if ← accept r"}" then return .done names
    if ← accept "..." then
      let s ← bindingRest go c r"}"
      guard s.name
      return .done (names ++ s.names)
    let names := names ++ (← bindingProperty go c)
    if ← accept "," then return .again names
    expect r"}"
    return .done names) []

/-- An array pattern, read from behind its bracket. -/
def arrayPattern : Parser (List String) :=
  loop (fun (names : List String) => do
    if ← accept "]" then return .done names
    if ← accept "," then return .again names
    if ← accept "..." then return .done (names ++ (← bindingRest go c "]").names)
    let names := names ++ (← bindingElement go c).names
    if ← accept "," then return .again names
    expect "]"
    return .done names) []

/-- A name or a pattern. -/
def binding : Parser Shape := do
  if ← accept r"{" then return { names := ← objectPattern go c }
  if ← accept "[" then return { names := ← arrayPattern go c }
  return { name := true, names := [← identifier c] }

/-! ### Parameters -/

/-- Decorators in front of a class or a member. -/
def decorators : Parser Bool :=
  loop (fun found => do
    if ← accept "@" then
      let _ ← go { c with inDecorator := true } .member
      return .again true
    else return .done found) false

/-- What parameters belong to. -/
inductive ParameterKind where
  | plain
  | creation
  | arrow

/-- What the grammar has to know of parameters. -/
structure ParameterList where
  count : Nat := 0
  /-- The last one takes all further arguments. -/
  variadic : Bool := false
  /-- One of them has a value where none is given. -/
  valued : Bool := false

def accessWords : List String := ["public", "private", "protected"]

/-- Modifiers of a parameter that is a field of its class too. -/
def parameterModifiers (kind : ParameterKind) : Parser Unit := do
  let words :=
    match kind with
    | .creation => accessWords ++ ["override", "readonly"]
    | _ => ["readonly"]
  loop (fun (seen : List String) => do
    match ← acceptModifier words with
    | some w =>
      guard !(seen.contains w)
      guard !(accessWords.contains w && seen.any accessWords.contains)
      return .again (w :: seen)
    | none => return .done ()) []

/-- A parameter, and whether it has a value where none is given. Optional ones have none. -/
def parameter (kind : ParameterKind) : Parser Bool := do
  if c.typed then parameterModifiers kind
  let _ ← go c .binding
  let optional ← if c.typed then accept "?" else pure false
  let _ ← typeOf? go c
  let valued ← initialValue? go c.inner
  guard !(optional && valued)
  return valued

/-- The parameter that names the receiver, in typed scripts. -/
def receiver? (kind : ParameterKind) : Parser Unit := do
  if c.typed then
    if ← acceptWord "this" then
      match kind with
      | .plain =>
        let _ ← typeOf? go c
        if !(← atMark ")") then expect ","
      | _ => failure

/-- Parameters in brackets. -/
def parameters (kind : ParameterKind) : Parser ParameterList := do
  expect "("
  receiver? go c kind
  loop (fun (list : ParameterList) => do
    if ← accept ")" then return .done list
    let _ ← decorators go c
    if ← accept "..." then
      let _ ← go c .binding
      let _ ← typeOf? go c
      expect ")"
      return .done { list with count := list.count + 1, variadic := true }
    let valued ← parameter go c kind
    let list := { list with count := list.count + 1, valued := list.valued || valued }
    if ← accept "," then return .again list
    expect ")"
    return .done list) {}

end Widgetry.Source
