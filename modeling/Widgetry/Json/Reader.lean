import Widgetry.Json.Value
import Widgetry.Text.Hexadecimal

/-! Reading a data text, which holds one value. Every reader returns its result and the text behind
it. Only the form of the text is checked: where it holds no value, the result is unsound. -/

namespace Widgetry.Json

def skipSpace (s : List Char) : List Char :=
  s.dropWhile fun c => c == ' ' || c == '\n' || c == '\t' || c == '\r'

/-- The text behind a word. -/
def expect (word : String) (s : List Char) : Option (List Char) :=
  if word.toList.isPrefixOf s then some (s.drop word.length) else none

/-- The code unit of four hexadecimal digits. -/
def unit? (a b c d : Char) : Option Nat := Text.hexValue? [a, b, c, d]

/-- The character of an escape other than the numeric one. -/
def escaped? : Char → Option Char
  | '"' => some '"'
  | '\\' => some '\\'
  | '/' => some '/'
  | 'b' => some '\x08'
  | 'f' => some '\x0c'
  | 'n' => some '\n'
  | 'r' => some '\r'
  | 't' => some '\t'
  | _ => none

/-- A character in front of a string; both may be missing. -/
def prepend (c : Option Char) (cs : Option (List Char)) : Option (List Char) := do
  return (← c) :: (← cs)

/-- The characters up to the closing quote. Code units above the basic plane come in pairs, and with
half a pair there are no characters. -/
def stringRest : List Char → Option (Option (List Char) × List Char)
  | [] => none
  | '"' :: s => some (some [], s)
  | '\\' :: 'u' :: a :: b :: c :: d :: s => do
    let high ← unit? a b c d
    if high < 0xD800 ∨ 0xDFFF < high then
      let (cs, s) ← stringRest s
      return (prepend (Char.ofNat high) cs, s)
    else
      match s with
      | '\\' :: 'u' :: a :: b :: c :: d :: s =>
        let low ← unit? a b c d
        let (cs, s) ← stringRest s
        return (prepend (Text.pairedUnits? high low) cs, s)
      | s =>
        let (_, s) ← stringRest s
        return (none, s)
  | '\\' :: e :: s => do
    let c ← escaped? e
    let (cs, s) ← stringRest s
    return (prepend c cs, s)
  | c :: s =>
    if c.toNat < 0x20 ∨ c = '\\' then none
    else do
      let (cs, s) ← stringRest s
      return (prepend c cs, s)

/-- A string in quotes, unless it names half a surrogate pair. -/
def string? (s : List Char) : Option (Option String × List Char) := do
  let s ← expect "\"" s
  let (cs, s) ← stringRest s
  return (cs.map String.ofList, s)

/-- A run of digits; at least one. -/
def digits? (s : List Char) : Option (List Nat × List Char) :=
  let run := s.takeWhile Char.isDigit
  if run.isEmpty then none else some (run.map fun c => c.toNat - '0'.toNat, s.drop run.length)

/-- A numeral: no plus sign, no leading zero, digits on both sides of a point. -/
def numeral? (s : List Char) : Option (Numeral × List Char) := do
  let (negative, s) :=
    match s with
    | '-' :: s => (true, s)
    | s => (false, s)
  let (whole, s) ← digits? s
  if whole.head? = some 0 ∧ 1 < whole.length then none
  let (fraction, s) ←
    match s with
    | '.' :: s => do
      let (ds, s) ← digits? s
      pure (some ds, s)
    | s => pure (none, s)
  let (exponent, s) ←
    match s with
    | 'e' :: s | 'E' :: s => do
      let (down, s) :=
        match s with
        | '+' :: s => (false, s)
        | '-' :: s => (true, s)
        | s => (false, s)
      let (ds, s) ← digits? s
      pure (some (down, ds), s)
    | s => pure (none, s)
  return (⟨negative, whole, fraction, exponent⟩, s)

def number? (s : List Char) : Option (Value × List Char) := do
  let (numeral, s) ← numeral? s
  return ((numeral.number?.map Value.number).getD .unsound, s)

/-- A key, a colon and a value. -/
def member? (value : List Char → Option (Value × List Char)) (s : List Char) :
    Option ((Option String × Value) × List Char) := do
  let (key, s) ← string? s
  let s ← expect ":" (skipSpace s)
  let (v, s) ← value (skipSpace s)
  return ((key, v), s)

/-- The object of its members; there is none if a key is missing. -/
def objectOf (members : List (Option String × Value)) : Value :=
  match members.mapM fun (key, v) => key.map (·, v) with
  | some members => .object members
  | none => .unsound

/-- One item and any number of further ones behind commas, up to the closing mark; `fuel` bounds
their number. -/
def items? {α : Type} (item : List Char → Option (α × List Char)) (closing : String) :
    Nat → List Char → Option (List α × List Char)
  | 0, _ => none
  | fuel + 1, s => do
    let (x, s) ← item (skipSpace s)
    let s := skipSpace s
    match expect "," s with
    | some s =>
      let (xs, s) ← items? item closing fuel s
      return (x :: xs, s)
    | none => return ([x], ← expect closing s)

/-- The items between two marks, of which the opening one is passed. -/
def list? {α : Type} (item : List Char → Option (α × List Char)) (closing : String)
    (s : List Char) : Option (List α × List Char) :=
  match expect closing (skipSpace s) with
  | some s => some ([], s)
  | none => items? item closing (s.length + 1) s

/-- A value; `fuel` bounds how deep arrays and objects nest in it. -/
def value? : Nat → List Char → Option (Value × List Char)
  | fuel, s =>
    match s with
    | 'n' :: _ => (expect "null" s).map (.null, ·)
    | 't' :: _ => (expect "true" s).map (.bool true, ·)
    | 'f' :: _ => (expect "false" s).map (.bool false, ·)
    | '"' :: _ => (string? s).map fun (v, s) => ((v.map Value.string).getD .unsound, s)
    | '[' :: s =>
      match fuel with
      | 0 => none
      | fuel + 1 => (list? (value? fuel) "]" s).map fun (vs, s) => (.array vs, s)
    | '{' :: s =>
      match fuel with
      | 0 => none
      | fuel + 1 =>
        (list? (member? (value? fuel)) r"}" s).map fun (ms, s) => (objectOf ms, s)
    | _ => number? s

/-- The value of a text that holds nothing else. -/
def parse? (text : String) : Option Value := do
  let (v, s) ← value? text.length (skipSpace text.toList)
  if (skipSpace s).isEmpty then some v else none

end Widgetry.Json
