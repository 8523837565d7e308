/-! Lines of text and their indentation. A line ends at a line feed, or at a carriage return and
line feed; the last line may lack its end. -/

namespace Widgetry.Text

/-- The lines of a text, without their ends. -/
def lines : List Char → List (List Char)
  | [] => []
  | '\n' :: cs => [] :: lines cs
  | '\r' :: '\n' :: cs => [] :: lines cs
  | c :: cs =>
    match lines cs with
    | [] => [[c]]
    | l :: ls => (c :: l) :: ls

/-- A run of spaces. -/
def pad (width : Nat) : String := String.ofList (List.replicate width ' ')

/-- Every line set in by `width` columns and ended by a line feed; empty lines are dropped. -/
def indentLines (width : Nat) (code : String) : String :=
  String.join <| (lines code.toList).map fun line =>
    if line.isEmpty then "" else pad width ++ String.ofList line ++ "\n"

end Widgetry.Text
