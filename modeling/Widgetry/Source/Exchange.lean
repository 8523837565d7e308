import Widgetry.Source.TypeDeclaration

/-! Imports and exports. What is kept of an export is the value that is exported by default and the
names under which values are exported. -/

namespace Widgetry.Source

variable (go : Grammar) (c : Context)

/-! ### Names that are handed over -/

/-- A name under which a module hands over a value. -/
inductive ExternalName where
  | word (name : String)
  | text (value : String)
  deriving DecidableEq

def ExternalName.value : ExternalName → String
  | .word name => name
  | .text value => value

def externalName : Parser ExternalName := do
  match ← attempt expectString with
  | some v => return .text v
  | none => return .word (← anyWord)

/-- The next token is a name under which a value is handed over. -/
def atExternalName : Parser Bool := do
  let l ← peek
  return l.token.word?.isSome || l.token matches .string _

/-- What is handed over, and under which name. -/
structure Specifier where
  source : ExternalName
  name : ExternalName
  typeOnly : Bool := false

/-- The name behind `as`, or the same name. -/
def renamed (source : ExternalName) (typeOnly : Bool) : Parser Specifier := do
  if ← acceptWord "as" then return ⟨source, ← externalName, typeOnly⟩
  else return ⟨source, source, typeOnly⟩

/-- A specifier behind the word `type`, which may be a name itself, as may the words `as` that
follow. -/
def typeSpecifier : Parser Specifier := do
  let self := ExternalName.word "type"
  let word := ExternalName.word "as"
  if ← acceptWord "as" then
    if ← acceptWord "as" then
      if ← atExternalName then return ⟨word, ← externalName, true⟩
      else return ⟨self, word, false⟩
    else if ← atExternalName then return ⟨self, ← externalName, false⟩
    else return ⟨word, word, true⟩
  else if ← atExternalName then renamed (← externalName) true
  else return ⟨self, self, false⟩

def specifier : Parser Specifier := do
  if c.typed then
    if ← acceptWord "type" then return ← typeSpecifier
  renamed (← externalName) false

/-- Specifiers in braces, read from behind the brace. Among types none is marked as one. -/
def specifiers (typeOnly : Bool) : Parser (List Specifier) := do
  let (items, _) ← commaList r"}" (specifier c)
  guard !(typeOnly && items.any (·.typeOnly))
  return items

/-! ### Modules -/

/-- The module that names come from, with its attributes, of which no two have one name. -/
def fromModule : Parser Unit := do
  let _ ← expectString
  if ← either (acceptWord "with") (acceptWordHere "assert") then
    expect r"{"
    let (keys, _) ← commaList r"}" do
      let key ← externalName
      expect ":"
      let _ ← expectString
      return key.value
    guard (keys.eraseDups.length = keys.length)
  semicolon

/-! ### Imports -/

/-- The names that specifiers bind are names of the program. -/
def boundSpecifiers (typeOnly : Bool) : Parser Unit := do
  let items ← specifiers c typeOnly
  guard (items.all fun s =>
    match s.name with
    | .word w => !isReserved c w
    | .text _ => false)

/-- Everything of a module under one name, or some of it, if either is next. -/
def importedNames? (typeOnly : Bool) : Parser Bool := do
  if ← accept "*" then
    expectWord "as"
    let _ ← identifier c
    return true
  if ← accept r"{" then
    boundSpecifiers c typeOnly
    return true
  return false

/-- What an import names, up to `from`. Types are not named in two ways at once. -/
def importClause (typeOnly : Bool) : Parser Unit := do
  if !(← importedNames? c typeOnly) then
    let _ ← identifier c
    if ← accept "," then
      guard !typeOnly
      guard (← importedNames? c false)
  expectWord "from"

/-- A word in front of what an import names, and not the name itself. -/
def acceptImportWord (word : String) : Parser Bool := do
  let before ← get
  if !(← acceptWord word) then return false
  let named := (← atIdentifier c) && (!(← atWord "from") || (← ahead do
    expectWord "from"
    either (atWord "from") (atMark "=")))
  if named || (← atMarks ["*", r"{"]) then return true
  set before
  return false

/-- Another name for something with a name, read from behind the keyword. -/
def importAlias : Parser Unit := do
  let _ ← identifier c
  expect "="
  if ← ahead (do expectWord "require"; atMark "(") then
    expectWord "require"
    expect "("
    let _ ← expectString
    expect ")"
  else qualifiedName
  semicolon

/-- Another name is given, judging from the equals sign. -/
def atImportAlias : Parser Bool := ahead do
  let _ ← identifier c
  atMark "="

/-- A word that says when a module is read: later, in front of all its names, or only its source,
in front of a single name. -/
def phase? : Parser (Option String) := do
  if ← ahead (do expectWord "defer"; atMark "*") then return some "defer"
  let single : Parser Bool := do
    expectWord "source"
    guard (← atIdentifier c)
    let _ ← anyWord
    atWord "from"
  if ← ahead single then return some "source" else return none

/-- An import, read from behind its keyword. -/
def importRest : Parser Unit := do
  if (← peek).token matches .string _ then return ← fromModule
  let typeOnly ← if c.typed then acceptImportWord c "type" else pure false
  if c.typed then
    if ← atImportAlias c then return ← importAlias c
  if !typeOnly then
    if let some w ← phase? c then expectWord w
  importClause c typeOnly
  fromModule

/-- An import that is a statement and no expression. -/
def atImport : Parser Bool := ahead do
  expectWord "import"
  return !(← atMarks ["(", "."])

/-! ### Exports -/

/-- What a statement exports: the form of its default export, and all names. -/
structure Exported where
  form : Option Form := none
  names : List String := []

/-- The default export of a value. -/
def Exported.byDefault (form : Form) : Exported := ⟨some form, ["default"]⟩

/-- A function starts here. -/
def atFunction : Parser Bool := do
  if ← atWord "function" then return true
  ahead do
    expectWord "async"
    guard !(← atNewline)
    atWord "function"

/-- A function that is a declaration, from its first word on. -/
def anyFunction (named : Bool) : Parser (List String) := do
  let awaits ← acceptWord "async"
  expectWord "function"
  return (← functionDeclaration go c awaits named).1

/-- A default export, read from behind its keyword, and the form of its value. -/
def defaultRest (decorated : Bool) : Parser Form := do
  let decoratedHere ← decorators go c
  guard !(decorated && decoratedHere)
  if ← ahead (do let _ ← acceptWord "abstract"; atWord "class") then
    if ← acceptWord "abstract" then guard c.typed
    expectWord "class"
    let _ ← go c .classRest
    return .other
  guard !(decorated || decoratedHere)
  if ← atFunction then
    let _ ← anyFunction go c false
    return .other
  if c.typed then
    if ← ahead (do expectWord "interface"; guard !(← atNewline); atIdentifier c) then
      expectWord "interface"
      interfaceRest go c
      return .other
  let s ← go c .assignment
  semicolon
  return s.form

/-- Words that name no value of a module. -/
def unexportedWords : List String :=
  ["await", "yield", "implements", "interface", "let", "package", "private", "protected", "public",
   "static"]

/-- Specifiers that are exported, read from behind the brace. Without another module they name
values of this one. -/
def exportedSpecifiers (typeOnly : Bool) : Parser (List String) := do
  let items ← specifiers c typeOnly
  if ← acceptWord "from" then fromModule
  else
    guard (items.all fun s =>
      match s.source with
      | .word w => !reservedWords.contains w && !unexportedWords.contains w
      | .text _ => false)
    semicolon
  return items.map (·.name.value)

/-- Everything that another module exports, read from behind the asterisk. -/
def exportedModule : Parser (List String) := do
  let names ← if ← acceptWord "as" then pure [(← externalName).value] else pure []
  expectWord "from"
  fromModule
  return names

/-- Exports that only typed scripts have, if one is next. -/
def typedExport? : Parser Bool := do
  if ← accept "=" then
    let _ ← go c .expression
    semicolon
    return true
  if ← ahead (do expectWord "as"; atWord "namespace") then
    expectWord "as"
    expectWord "namespace"
    let _ ← identifier c
    semicolon
    return true
  if ← acceptWord "import" then
    let _ ← acceptImportWord c "type"
    importAlias c
    return true
  if ← ahead (do expectWord "type"; atMarks [r"{", "*"]) then
    expectWord "type"
    if ← accept "*" then
      let _ ← exportedModule
    else
      expect r"{"
      let _ ← exportedSpecifiers c true
    return true
  return false

/-- A declaration that is exported, and the names that it declares. -/
def exportedDeclaration (decorated : Bool) : Parser (List String) := do
  let decoratedHere ← decorators go c
  guard !(decorated && decoratedHere)
  if decorated || decoratedHere then
    guard (← ahead (do let _ ← acceptWord "abstract"; atWord "class"))
  let plain ← either (atWords ["var", "let", "const", "function", "class"]) atFunction
  guard (plain || (← atTypedDeclaration c))
  return (← go c .statement).names

/-- An export, read from behind its keyword. -/
def exportRest (decorated : Bool) : Parser Exported := do
  if ← acceptWord "default" then return .byDefault (← defaultRest go c decorated)
  if !decorated then
    if ← accept "*" then return { names := ← exportedModule }
    if ← accept r"{" then return { names := ← exportedSpecifiers c false }
    if c.typed then
      if ← typedExport? go c then return {}
  return { names := ← exportedDeclaration go c decorated }

/-- An import, or an export that may be decorated, if one is next. -/
def exchange? : Parser (Option Exported) := do
  if ← atImport then
    expectWord "import"
    importRest c
    return some {}
  if ← acceptWord "export" then return some (← exportRest go c false)
  if ← atMark "@" then
    let before ← get
    let _ ← decorators go c
    if ← acceptWord "export" then return some (← exportRest go c true)
    set before
  return none

end Widgetry.Source
