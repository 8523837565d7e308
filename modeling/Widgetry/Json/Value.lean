import Widgetry.Json.Number
import Widgetry.Text.Quoted

/-! Data values. Members of an object keep their order, and a key may come more than once. A text
can be well formed and still hold no value in places: a numeral may be out of range, and a string or
a key may name half a surrogate pair. -/

namespace Widgetry.Json

inductive Value where
  /-- A well formed place without a value. -/
  | unsound
  | null
  | bool (value : Bool)
  | number (value : Number)
  | string (value : String)
  | array (items : List Value)
  | object (members : List (String × Value))

/-- The value as messages about a wrong type show it. -/
def Value.text : Value → String
  | .unsound => "nothing"
  | .null => "null"
  | .bool true => "boolean `true`"
  | .bool false => "boolean `false`"
  | .number n => n.text
  | .string s => "string " ++ Text.quoted s
  | .array _ => "sequence"
  | .object _ => "map"

namespace Value

mutual

/-- The value has no unsound place, and arrays and objects nest at most `depth` deep in it. -/
def sound : Nat → Value → Bool
  | _, .unsound => false
  | 0, .array _ | 0, .object _ => false
  | depth + 1, .array items => soundItems depth items
  | depth + 1, .object members => soundMembers depth members
  | _, _ => true

def soundItems (depth : Nat) : List Value → Bool
  | [] => true
  | v :: vs => v.sound depth && soundItems depth vs

def soundMembers (depth : Nat) : List (String × Value) → Bool
  | [] => true
  | (_, v) :: ms => v.sound depth && soundMembers depth ms

end

end Value

/-- The latest value of a key; nothing if this is no object. -/
def Value.member? (key : String) : Value → Option Value
  | .object members => members.reverse.lookup key
  | _ => none

end Widgetry.Json
