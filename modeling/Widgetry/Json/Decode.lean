import Widgetry.Json.Reader

/-! Decoding of data values into records. Members are read in the order in which they stand and the
first problem is reported; unknown members are ignored; what is missing is reported after all
members were read, in the order of declaration. A record may also be an array of its fields. -/

namespace Widgetry.Json

inductive DecodeFault where
  | syntactic
  | missingField (name : String)
  | duplicateField (name : String)
  | wrongType (found expected : String)
  | wrongLength (count : Nat) (expected : String)
  | unknownVariant (name : String) (known : List String)
  | noValue
  | surplus
  deriving DecidableEq

def DecodeFault.message : DecodeFault → String
  | syntactic => "<syntax>"
  | missingField name => "missing field `" ++ name ++ "`"
  | duplicateField name => "duplicate field `" ++ name ++ "`"
  | wrongType found expected => "invalid type: " ++ found ++ ", expected " ++ expected
  | wrongLength count expected =>
    "invalid length " ++ toString count ++ ", expected " ++ expected
  | unknownVariant name known =>
    "unknown variant `" ++ name ++ "`, expected " ++
      String.intercalate " or " (known.map fun k => "`" ++ k ++ "`")
  | noValue => "expected value"
  | surplus => "trailing characters"

/-- Reads a value of one type from data. -/
abbrev Decoder (α : Type) := Value → Except DecodeFault α

/-- The value is of another type than expected, or there is none. -/
def mismatch {α : Type} (v : Value) (expected : String) : Except DecodeFault α :=
  match v with
  | .unsound => .error .syntactic
  | v => .error (.wrongType v.text expected)

namespace Decoder

variable {α : Type}

def string : Decoder String
  | .string s => .ok s
  | v => mismatch v "a string"

def bool : Decoder Bool
  | .bool b => .ok b
  | v => mismatch v "a boolean"

/-- Null is no value. -/
def optional (d : Decoder α) : Decoder (Option α)
  | .null => .ok none
  | v => (d v).map some

def list (d : Decoder α) : Decoder (List α)
  | .array items => items.mapM d
  | v => mismatch v "a sequence"

/-- Entries by key, in order; keys may come again. -/
def entries (d : Decoder α) : Decoder (List (String × α))
  | .object members => members.mapM fun (k, v) => (d v).map (k, ·)
  | v => mismatch v "a map"

/-- One of several names. A name may also be the only key of an object with the value null. -/
def variant (known : List (String × α)) : Decoder α
  | .string s => named s
  | .object ((key, v) :: rest) => do
    let a ← named key
    match v with
    | .null => if rest.isEmpty then .ok a else .error .noValue
    | v => mismatch v "unit"
  | _ => .error .noValue
where
  named (s : String) : Except DecodeFault α :=
    match known.lookup s with
    | some a => .ok a
    | none => .error (.unknownVariant s (known.map Prod.fst))

end Decoder

/-- A record type: its name, its fields in order, each with whether it must be there, and how a
field's value is put into the record. -/
structure Layout (α : Type) where
  name : String
  fields : List (String × Bool)
  put : String → Value → α → Except DecodeFault α

namespace Layout

variable {α : Type} (l : Layout α)

/-- The members of an object, in order; `seen` holds the fields met before. -/
def members : List String → List (String × Value) → α → Except DecodeFault (List String × α)
  | seen, [], a => .ok (seen, a)
  | seen, (key, v) :: ms, a =>
    if (l.fields.lookup key).isNone then members seen ms a
    else if seen.contains key then .error (.duplicateField key)
    else do members (key :: seen) ms (← l.put key v a)

/-- The items of an array go to the fields in order. -/
def items : List (String × Bool) → List Value → Nat → α → Except DecodeFault α
  | [], [], _, a => .ok a
  | [], _ :: _, _, _ => .error .surplus
  | (key, _) :: fields, v :: vs, count, a => do items fields vs (count + 1) (← l.put key v a)
  | (_, required) :: fields, [], count, a =>
    if required then
      .error (.wrongLength count
        ("struct " ++ l.name ++ " with " ++ toString l.fields.length ++ " elements"))
    else items fields [] (count + 1) a

/-- The record of a value; fields that are left out are those of `start`. -/
def decode (start : α) : Decoder α
  | .object ms => do
    let (seen, a) ← l.members [] ms start
    match l.fields.find? fun (key, required) => required && !seen.contains key with
    | some (key, _) => .error (.missingField key)
    | none => .ok a
  | .array vs => l.items l.fields vs 0 start
  | v => mismatch v ("struct " ++ l.name)

end Layout

/-- How deep arrays and objects may nest in a sound text. -/
def maxDepth : Nat := 127

/-- Decodes a text. Members that are ignored need no value; but a text with an unsound place has no
other fault than that. -/
def Decoder.text {α : Type} (d : Decoder α) (text : String) : Except DecodeFault α :=
  match parse? text with
  | none => .error .syntactic
  | some v =>
    match d v with
    | .ok a => .ok a
    | .error fault => .error (if v.sound maxDepth then fault else .syntactic)

end Widgetry.Json
