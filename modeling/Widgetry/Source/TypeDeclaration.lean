import Widgetry.Source.Class

/-! Variables, and the declarations that only typed scripts have. -/

namespace Widgetry.Source

variable (go : Grammar) (c : Context)

/-! ### Variables -/

/-- A declared variable: its names, whether it is a pattern and whether it has a value. -/
structure Declarator where
  names : List String
  pattern : Bool
  valued : Bool

/-- One declared variable. One that is said to get a value later has a type and no value yet. -/
def declarator : Parser Declarator := do
  let s ← go c .binding
  let later ← if c.typed && s.name && !(← atNewline) then accept "!" else pure false
  let typed ← typeOf? go c
  let valued ← initialValue? go c
  guard (!later || (typed && !valued))
  return ⟨s.names, !s.name, valued⟩

/-- Constants and patterns need a value. -/
def Declarator.complete (keyword : String) (d : Declarator) : Bool :=
  d.valued || !(d.pattern || keyword = "const")

/-- Variables behind their keyword, up to the end of the statement. -/
def variablesRest (keyword : String) : Parser Shape := do
  let ds ← separated "," (declarator go c)
  semicolon
  guard (c.ambient || ds.all (·.complete keyword))
  return { names := ds.flatMap (·.names) }

/-! ### Enumerations and interfaces -/

/-- The name of a member of an enumeration, which is neither a number nor computed. -/
def enumMemberName : Parser Unit := do
  match ← propertyName go c with
  | .plain _ | .computed (some _) => return
  | _ => failure

/-- An enumeration, read from behind its keyword. -/
def enumRest : Parser Unit := do
  let _ ← identifier c
  expect r"{"
  let _ ← commaList r"}" do
    enumMemberName go c
    initialValue? go c

/-- An interface, read from behind its keyword. -/
def interfaceRest : Parser Unit := do
  let _ ← identifier c
  let _ ← typeParameters? go c
  if ← acceptWord "extends" then
    let _ ← separated "," do
      let _ ← go c .member
      typeArguments? go c
  objectType go c

/-- The name of a type, read from behind its keyword. -/
def aliasRest : Parser Unit := do
  let _ ← identifier c
  let _ ← typeParameters? go c
  expect "="
  typeExpression go c
  semicolon

/-! ### All typed declarations -/

/-- A namespace, read from behind its keyword. -/
def namespaceRest : Parser Unit := do
  qualifiedName
  block go c

/-- A module, read from behind its keyword. One that a text names may lack a body. -/
def moduleRest : Parser Unit := do
  if (← attempt expectString).isSome then
    if ← atMark r"{" then block go c else semicolon
  else namespaceRest go c

/-- A declaration that may be described only. -/
def declaration : Parser Shape := do
  let l ← peek
  let keyword (rest : Parser Unit) : Parser Shape := do
    advance l
    rest
    return {}
  match l.token with
  | .word "interface" => keyword (interfaceRest go c)
  | .word "type" => keyword (aliasRest go c)
  | .word "enum" => keyword (enumRest go c)
  | .word "namespace" => keyword (namespaceRest go c)
  | .word "module" => keyword (moduleRest go c)
  | .word "global" => keyword do
    guard c.ambient
    block go c
  | .word "abstract" => keyword do
    expectWord "class"
    let _ ← go c .classRest
  | .word "class" =>
    advance l
    go c .classRest
  | .word "function" => keyword do
    let _ ← functionDeclaration go c false true
  | .word "const" =>
    advance l
    if ← acceptWord "enum" then
      guard c.typed
      enumRest go c
      return {}
    else variablesRest go c "const"
  | .word "var" | .word "let" =>
    advance l
    variablesRest go c "var"
  | _ => failure

/-- The words of declarations start one, judging from what follows them. -/
def atTypedDeclarationFor : Nat → Parser Bool
  | 0 => return false
  | fuel + 1 => do
    let l ← peek
    advance l
    match l.token with
    | .word w =>
      if ["var", "let", "const", "function", "class", "enum"].contains w then return true
      if ["interface", "type"].contains w then
        return (← atIdentifier c) && !(← atNewline)
      if ["module", "namespace"].contains w then
        let next ← peek
        let named := (← atIdentifier c) || next.token matches .string _
        return named && !next.newline
      if w = "global" then return ← atMark r"{"
      if ["abstract", "declare"].contains w then
        guard !(← atNewline)
        atTypedDeclarationFor fuel
      else return false
    | _ => return false

/-- A declaration that only typed scripts have starts here. -/
def atTypedDeclaration : Parser Bool := do
  if !c.typed then return false
  let words := ["interface", "type", "module", "namespace", "declare", "enum", "abstract", "global"]
  if ← atWords words then ahead (atTypedDeclarationFor c 3) else return false

/-- A declaration that only typed scripts have. -/
def typedDeclaration : Parser Shape := do
  if ← acceptWord "declare" then declaration go { c with ambient := true } else declaration go c

end Widgetry.Source
