import Widgetry.Source.Statement

/-! Script modules. What is kept of a module is the first value that it exports by default. -/

namespace Widgetry.Source

/-- One step of the grammar. -/
def rule (go : Grammar) : Grammar
  | c, .statement => anyStatement go c false
  | c, .body => anyStatement go c true
  | c, .expression => expression go c
  | c, .assignment => assignment go c
  | c, .element => element go c
  | c, .unary => unary go c
  | c, .member => member go c
  | c, .primary => primary go c
  | c, .binding => binding go c
  | c, .functionBody => functionBody go c
  | c, .classRest => classRest go c
  | c, .type => fullType go c
  | c, .typeOperand => typeOperand go c
  | c, .resultType => resultType go c

/-- The grammar up to a depth of derivations. -/
def grammar : Nat → Grammar
  | 0 => fun _ _ => failure
  | depth + 1 => rule (grammar depth)

variable (go : Grammar) (c : Context)

/-- A statement of a module, and what it exports. -/
def moduleItem : Parser Exported := do
  match ← exchange? go c with
  | some exported => return exported
  | none =>
    let _ ← go c .statement
    return {}

/-- The statements of a module to its end: its first default export and all names that it
exports. -/
def moduleItems : Parser Exported :=
  loop (fun (all : Exported) => do
    if ← acceptToken .finish then return .done all
    let item ← moduleItem go c
    return .again ⟨all.form.or item.form, item.names ++ all.names⟩) {}

/-- A whole module. Without types no name is exported twice. -/
def wholeModule : Parser (Option Form) := do
  let exported ← moduleItems go c
  guard (c.typed || exported.names.eraseDups.length = exported.names.length)
  return exported.form

/-- The text without an interpreter line at its very start. -/
def afterInterpreter (text : List Char) : List Char :=
  match text with
  | '#' :: '!' :: _ => text.dropWhile fun ch => !isBreak ch
  | _ => text

/-- Reads a module: nothing if the text is no module, and else the form of its first default
export, if it has one. Between two tokens no derivation goes through more nonterminals than the
factor allows. -/
def read (typed : Bool) (text : List Char) : Option (Option Form) :=
  let depth := 16 * (text.length + 4)
  let start := Position.start text.length (afterInterpreter text)
  ((((wholeModule (grammar depth) { typed }).run start).run).run {}).1.map Prod.fst

end Widgetry.Source
