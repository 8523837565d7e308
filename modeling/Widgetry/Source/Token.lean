import Widgetry.Text.Blank
import Widgetry.Text.Hexadecimal
import Widgetry.Text.Letter

/-! Tokens of a script module. The next token is read on demand from a position in the text; where a
slash starts a regular expression and where a template goes on is for the grammar to say. -/

namespace Widgetry.Source

open Text (isBlank isLetter isLetterMark)

inductive Token where
  | word (name : String)
  /-- A word written with escapes, which is never a keyword. -/
  | spelled (name : String)
  | privateName (name : String)
  | mark (text : String)
  | number
  | string (value : String)
  | finish
  | bad
  deriving DecidableEq

/-- A token in its text. -/
structure Lexeme where
  token : Token
  /-- A line break stands in front. -/
  newline : Bool
  /-- The text from the token on. -/
  here : List Char
  /-- The text behind the token. -/
  rest : List Char

def isBreak (c : Char) : Bool := c == '\n' || c == '\r' || c == '\u2028' || c == '\u2029'

def isGap (c : Char) : Bool := isBlank c || c == '\uFEFF' || c == '\u200B'

/-! ### Space and comments -/

/-- What is being passed over. -/
inductive Trivia where
  | space
  | lineComment
  | blockComment

/-- The text behind space and comments, and whether a line break was passed. A block comment without
an end has nothing behind it. -/
def skipTrivia : Trivia → (newline : Bool) → List Char → Option (Bool × List Char)
  | .space, newline, [] => some (newline, [])
  | .space, newline, '/' :: '/' :: s => skipTrivia .lineComment newline s
  | .space, newline, '/' :: '*' :: s => skipTrivia .blockComment newline s
  | .space, newline, c :: s =>
    if isGap c then skipTrivia .space (newline || isBreak c) s else some (newline, c :: s)
  | .lineComment, newline, [] => some (newline, [])
  | .lineComment, newline, c :: s =>
    if isBreak c then skipTrivia .space true s else skipTrivia .lineComment newline s
  | .blockComment, _, [] => none
  | .blockComment, newline, '*' :: '/' :: s => skipTrivia .space newline s
  | .blockComment, newline, c :: s => skipTrivia .blockComment (newline || isBreak c) s

/-! ### Escapes -/

/-- The number of a `\u` escape, read from behind the letter. -/
def codePoint? : List Char → Option (Nat × List Char)
  | '{' :: s =>
    let digits := s.takeWhile (· ≠ '}')
    match s.drop digits.length with
    | _ :: rest => if digits.isEmpty then none else (Text.hexValue? digits).map (·, rest)
    | [] => none
  | s => Text.hexField? 4 s

/-- The character of a `\u` escape; two escapes may stand for one character. -/
def unicodeEscape? (s : List Char) : Option (Char × List Char) := do
  let (n, s) ← codePoint? s
  let paired : Option (Char × List Char) :=
    match s with
    | '\\' :: 'u' :: t => do
      let (low, t) ← codePoint? t
      return (← Text.pairedUnits? n low, t)
    | _ => none
  match paired with
  | some result => return result
  | none =>
    if 0x10FFFF < n then none
    else return (if n.isValidChar then Char.ofNat n else '\uFFFD', s)

def isOctal (c : Char) : Bool := '0' ≤ c && c ≤ '7'

def octalValue (digits : List Char) : Nat :=
  digits.foldl (fun n c => 8 * n + (c.toNat - '0'.toNat)) 0

/-- The characters of an escape in a string, read from behind the backslash. Up to three octal
digits name a character. -/
def stringEscape? : List Char → Option (List Char × List Char)
  | [] => none
  | '\r' :: '\n' :: s => some ([], s)
  | 'u' :: s => (unicodeEscape? s).map fun (c, s) => ([c], s)
  | 'x' :: s => (Text.hexField? 2 s).map fun (n, s) => ([Char.ofNat n], s)
  | 'n' :: s => some (['\n'], s)
  | 't' :: s => some (['\t'], s)
  | 'r' :: s => some (['\r'], s)
  | 'b' :: s => some (['\x08'], s)
  | 'f' :: s => some (['\x0c'], s)
  | 'v' :: s => some (['\x0b'], s)
  | c :: s =>
    if isBreak c then some ([], s)
    else if isOctal c then
      let digits := ((c :: s).take (if c < '4' then 3 else 2)).takeWhile isOctal
      some ([Char.ofNat (octalValue digits)], (c :: s).drop digits.length)
    else some ([c], s)

/-- An escape that a template without a tag may hold, read from behind the backslash. -/
def templateEscape : List Char → Bool
  | 'u' :: s => (unicodeEscape? s).isSome
  | 'x' :: s => (Text.hexField? 2 s).isSome
  | '0' :: s => !s.head?.any Char.isDigit
  | c :: _ => !c.isDigit
  | [] => false

/-! ### Words, strings and numbers -/

/-- A character that may start a word. -/
def startsWord (c : Char) : Bool := c == '$' || c == '_' || isLetter c

/-- A character that may continue a word. -/
def continuesWord (c : Char) : Bool :=
  startsWord c || isLetterMark c || c == '\u200C' || c == '\u200D'

/-- The characters of a word and the text behind it; `fuel` bounds their number. -/
def wordFrom (accepts : Char → Bool) : Nat → List Char → Option (List Char × List Char)
  | fuel + 1, '\\' :: 'u' :: s => do
    let (c, s) ← unicodeEscape? s
    if accepts c then
      let (cs, s) ← wordFrom continuesWord fuel s
      return (c :: cs, s)
    else none
  | fuel + 1, c :: s =>
    if accepts c then do
      let (cs, s) ← wordFrom continuesWord fuel s
      return (c :: cs, s)
    else some ([], c :: s)
  | _, s => some ([], s)

/-- A word at the head of a text. -/
def word? (s : List Char) : Option (String × List Char) :=
  match wordFrom startsWord (s.length + 1) s with
  | some (c :: cs, s) => some (String.ofList (c :: cs), s)
  | _ => none

/-- The word at the head of a text is written with escapes. -/
def hasEscape (s : List Char) : Bool := (s.dropWhile continuesWord).head? == some '\\'

/-- The characters of a string up to its closing quote; `fuel` bounds their number. -/
def stringFrom (quote : Char) : Nat → List Char → Option (List Char × List Char)
  | fuel + 1, c :: s =>
    if c = quote then some ([], s)
    else if c = '\n' ∨ c = '\r' then none
    else do
      let (cs, s) ← if c = '\\' then stringEscape? s else some ([c], s)
      let (rest, s) ← stringFrom quote fuel s
      return (cs ++ rest, s)
  | _, _ => none

/-- The text behind a run of digits; underscores may stand between two digits. -/
def digitsFrom (isDigit : Char → Bool) : List Char → Option (List Char)
  | [] => none
  | [c] => if isDigit c then some [] else none
  | c :: '_' :: s => if isDigit c then digitsFrom isDigit s else none
  | c :: d :: s =>
    if !isDigit c then none
    else if isDigit d then digitsFrom isDigit (d :: s)
    else some (d :: s)

/-- The text behind an exponent, if there is one. -/
def exponentFrom : List Char → Option (List Char)
  | e :: sign :: s =>
    if e = 'e' ∨ e = 'E' then
      digitsFrom Char.isDigit (if sign = '+' ∨ sign = '-' then s else sign :: s)
    else some (e :: sign :: s)
  | s => if s = ['e'] ∨ s = ['E'] then none else some s

/-- The text behind a fraction and an exponent, read from behind the point. -/
def fractionFrom (s : List Char) : Option (List Char) :=
  if s.head?.any Char.isDigit then (digitsFrom Char.isDigit s).bind exponentFrom
  else exponentFrom s

/-- The text behind a whole number that may be a big one. -/
def wholeFrom (isDigit : Char → Bool) (s : List Char) : Option (List Char) :=
  (digitsFrom isDigit s).map fun
    | 'n' :: s => s
    | s => s

/-- The text behind digits that follow a zero. They are octal unless one of them is not, and then a
fraction or an exponent may follow. -/
def afterZero (s : List Char) : Option (List Char) :=
  let digits := s.takeWhile Char.isDigit
  let rest := s.drop digits.length
  if digits.all isOctal then some rest
  else
    match rest with
    | '.' :: rest => fractionFrom rest
    | rest => exponentFrom rest

/-- The text behind a number. -/
def numberFrom : List Char → Option (List Char)
  | '0' :: 'x' :: s | '0' :: 'X' :: s => wholeFrom Text.isHexDigit s
  | '0' :: 'o' :: s | '0' :: 'O' :: s => wholeFrom isOctal s
  | '0' :: 'b' :: s | '0' :: 'B' :: s => wholeFrom (fun c => c == '0' || c == '1') s
  | '.' :: s => fractionFrom s
  | '0' :: d :: s =>
    if d.isDigit then afterZero (d :: s)
    else if d = 'n' then some s
    else if d = '.' then fractionFrom s
    else exponentFrom (d :: s)
  | s => do
    match ← digitsFrom Char.isDigit s with
    | 'n' :: s => some s
    | '.' :: s => fractionFrom s
    | s => exponentFrom s

/-- A number at the head of a text; no word or digit follows it directly. -/
def number? (s : List Char) : Option (List Char) := do
  let rest ← numberFrom s
  if rest.head?.any fun c => startsWord c || c.isDigit then none else some rest

/-! ### Marks -/

/-- The marks, longer ones before those that they start with. -/
def marks : List String :=
  [">>>=", "...", "===", "!==", "**=", "<<=", ">>=", ">>>", "&&=", "||=", "??=",
   "=>", "==", "!=", "<=", ">=", "&&", "||", "??", "?.", "++", "--", "+=", "-=", "*=", "/=", "%=",
   "&=", "|=", "^=", "<<", ">>", "**", r"{", r"}", "(", ")", "[", "]", ";", ",", "<", ">", "+",
   "-", "*", "/", "%", "&", "|", "^", "!", "~", "?", ":", "=", ".", "@", "`"]

/-- The longest mark at the head of a text. A question mark before a decimal point is one of its
own. -/
def mark? (s : List Char) : Option String :=
  match s with
  | '?' :: '.' :: d :: _ => some (if d.isDigit then "?" else "?.")
  | _ => marks.find? fun m => m.toList.isPrefixOf s

/-! ### The next token -/

/-- The token at the head of a text that starts with no space, and the text behind it. -/
def token (s : List Char) : Token × List Char :=
  let result : Option (Token × List Char) :=
    match s with
    | [] => some (.finish, [])
    | c :: t =>
      if c = '"' ∨ c = '\'' then
        (stringFrom c s.length t).map fun (cs, r) => (.string (String.ofList cs), r)
      else if c.isDigit ∨ (c = '.' ∧ t.head?.any Char.isDigit) then (number? s).map (.number, ·)
      else if c = '#' then (word? t).map fun (w, r) => (.privateName w, r)
      else if startsWord c ∨ c = '\\' then
        (word? s).map fun (w, r) => (if hasEscape s then .spelled w else .word w, r)
      else (mark? s).map fun m => (.mark m, s.drop m.length)
  result.getD (.bad, [])

/-- The next token of a text. -/
def lexeme (s : List Char) : Lexeme :=
  match skipTrivia .space false s with
  | none => ⟨.bad, false, [], []⟩
  | some (newline, here) =>
    let (t, rest) := token here
    ⟨t, newline, here, rest⟩

/-! ### Regular expressions and templates -/

/-- The flags of a regular expression. -/
def regexFlags : List Char := ['d', 'g', 'i', 'm', 's', 'u', 'v', 'y']

/-- Known flags, each at most once, and not both ways of reading the pattern by code points. -/
def goodFlags (flags : List Char) : Bool :=
  flags.all regexFlags.contains && flags.eraseDups.length == flags.length &&
    !(flags.contains 'u' && flags.contains 'v')

/-- The text behind the flags of a regular expression. -/
def flagsFrom (s : List Char) : Option (List Char) :=
  let flags := s.takeWhile fun c => c.isAlphanum || c == '_' || c == '$'
  if goodFlags flags then some (s.drop flags.length) else none

/-- The text behind the body of a regular expression and its flags. -/
def regexFrom : (inClass : Bool) → List Char → Option (List Char)
  | _, [] => none
  | inClass, '\\' :: c :: s => if isBreak c then none else regexFrom inClass s
  | inClass, c :: s =>
    if isBreak c then none
    else if c = '/' ∧ !inClass then flagsFrom s
    else regexFrom (if c = '[' then true else if c = ']' then false else inClass) s

/-- A piece of a template: whether the template ends with it or an expression follows, whether its
escapes are good, and the text behind it. -/
structure TemplatePiece where
  closed : Bool
  good : Bool
  rest : List Char

/-- The piece of a template at the head of a text; `good` tells of the escapes before. -/
def templateFrom : (good : Bool) → List Char → Option TemplatePiece
  | _, [] => none
  | good, '`' :: s => some ⟨true, good, s⟩
  | good, '$' :: '{' :: s => some ⟨false, good, s⟩
  | good, '\\' :: c :: s => templateFrom (good && templateEscape (c :: s)) s
  | good, _ :: s => templateFrom good s

end Widgetry.Source
