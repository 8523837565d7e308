import Widgetry.Markup.Entity

/-! Character references in attribute values. A reference is numeric, with an optional semicolon, or
named. A bare name inside a quoted value is a reference only if neither a letter, a digit nor an
equals sign follows it. What is no reference stays as it is written. A name ends at the first
character that no longer name goes on with; that character is read again as text. -/

namespace Widgetry.Markup

/-- The characters that the code points 128 to 159 stand for. -/
def controlCharacters : List Nat :=
  [0x20AC, 0x81, 0x201A, 0x0192, 0x201E, 0x2026, 0x2020, 0x2021, 0x02C6, 0x2030, 0x0160, 0x2039,
   0x0152, 0x8D, 0x017D, 0x8F, 0x90, 0x2018, 0x2019, 0x201C, 0x201D, 0x2022, 0x2013, 0x2014,
   0x02DC, 0x2122, 0x0161, 0x203A, 0x0153, 0x9D, 0x017E, 0x0178]

/-- The character of a numeric reference; numbers of no character give the replacement character. -/
def numbered (n : Nat) : Char :=
  if n = 0 then '\uFFFD'
  else if 0x80 ≤ n ∧ n ≤ 0x9F then Char.ofNat (controlCharacters.getD (n - 0x80) n)
  else if n.isValidChar then Char.ofNat n
  else '\uFFFD'

def decimalValue (digits : List Char) : Nat :=
  digits.foldl (fun n c => 10 * n + (c.toNat - '0'.toNat)) 0

def hexadecimalValue (digits : List Char) : Nat := (Text.hexValue? digits).getD 0

/-- A carriage return counts as a line feed and NUL as the replacement character. -/
def normal (c : Char) : Char :=
  if c = '\r' then '\n' else if c = '\x00' then '\uFFFD' else c

/-- How the next character of a value is taken in. -/
inductive Intake where
  /-- As it is written. -/
  | verbatim
  /-- In its normal form. -/
  | normal
  /-- In its normal form, unless it is a line feed, which belongs to a carriage return before it
  and is left out. -/
  | afterReturn
  deriving DecidableEq

/-- What has been read of a reference behind its ampersand. -/
inductive Reference where
  | start
  /-- The letter that announces hexadecimal digits, and the digits. -/
  | number (marker : Option Char) (digits : List Char)
  /-- Characters that some name starts with. -/
  | nameStart (seen : List Char)
  /-- Letters and digits that no name starts with. -/
  | word (seen : List Char)
  deriving DecidableEq

namespace Reference

/-- A reference goes on, or it has ended: it stands for characters, and some of those that were read
are read again, the first of them as told. -/
inductive Step where
  | more (r : Reference)
  | done (characters again : List Char) (intake : Intake)

/-- All names as they are written, with their semicolon. -/
def writtenNames : List (List Char) := namedCharacters.map fun (name, _) => name.toList ++ [';']

/-- Some name starts with these characters. -/
def startsName (seen : List Char) : Bool := writtenNames.any seen.isPrefixOf

/-- The characters that a whole name stands for. -/
def named? (name : List Char) : Option (List Char) :=
  match name.reverse with
  | ';' :: base => namedCharacters.lookup (String.ofList base.reverse)
  | _ =>
    let text := String.ofList name
    if bareNames.contains text then namedCharacters.lookup text else none

/-- The longest name that a text starts with, and the characters that it stands for. -/
def longest? (seen : List Char) : Option (List Char × List Char) :=
  (List.range seen.length).findSome? fun k =>
    let name := seen.take (seen.length - k)
    (named? name).map (name, ·)

/-- The characters of a name that was read with what follows it, and what is read again. -/
def endName (quoted : Bool) (seen : List Char) : Option (List Char × List Char) := do
  let (name, characters) ← longest? seen
  let rest := seen.drop name.length
  let bare := name.getLast? ≠ some ';'
  if quoted && bare && rest.head?.any (fun c => c == '=' || c.isAlphanum) then
    return (['&'], seen)
  return (characters, rest)

/-- The characters of a number. -/
def numberCharacters (marker : Option Char) (digits : List Char) : List Char :=
  if digits.isEmpty then ['&', '#'] ++ marker.toList
  else [numbered (if marker.isSome then hexadecimalValue digits else decimalValue digits)]

/-- A character of a name. -/
def stepName (quoted : Bool) (seen : List Char) (c : Char) : Step :=
  let intake := if c = '\r' then .afterReturn else .verbatim
  let longer := seen ++ [normal c]
  if startsName longer then .more (.nameStart longer)
  else
    match endName quoted longer with
    | some (characters, again) => .done characters again intake
    | none => if c.isAlphanum then .more (.word longer) else .done ['&'] longer intake

/-- One character behind the ampersand, in a quoted or in a bare value. -/
def step (quoted : Bool) : Reference → Char → Step
  | .start, c => if c = '#' then .more (.number none []) else stepName quoted [] c
  | .number marker digits, c =>
    if marker.isNone && digits.isEmpty && (c == 'x' || c == 'X') then .more (.number (some c) [])
    else if (if marker.isSome then Text.isHexDigit c else c.isDigit) then
      .more (.number marker (digits ++ [c]))
    else if c = ';' ∧ !digits.isEmpty then .done (numberCharacters marker digits) [] .verbatim
    else .done (numberCharacters marker digits) [c] .verbatim
  | .nameStart seen, c => stepName quoted seen c
  | .word seen, c =>
    let longer := seen ++ [normal c]
    if c.isAlphanum then .more (.word longer)
    else .done ['&'] longer (if c = '\r' then .afterReturn else .verbatim)

/-- What a reference stands for if the text ends with it. -/
def finish (quoted : Bool) : Reference → List Char
  | .start => ['&']
  | .number marker digits => numberCharacters marker digits
  | .nameStart seen =>
    match endName quoted seen with
    | some (characters, again) => characters ++ again
    | none => '&' :: seen
  | .word seen => '&' :: seen

end Reference

end Widgetry.Markup
