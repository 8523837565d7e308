/-! Comparison of text without regard to case. Two characters outside ASCII fold to ASCII letters:
the long s and the Kelvin sign. -/

namespace Widgetry.Text

/-- The small letter that stands for a character in caseless comparison. -/
def fold (c : Char) : Char :=
  if c = 'ſ' then 's' else if c = 'K' then 'k' else c.toLower

/-- What follows `word` at the head of a text, letters compared without regard to case. -/
def afterFolded? : List Char → List Char → Option (List Char)
  | [], s => some s
  | _ :: _, [] => none
  | w :: word, c :: s => if fold c = fold w then afterFolded? word s else none

/-- What follows `word` at the head of a text. -/
def after? : List Char → List Char → Option (List Char)
  | [], s => some s
  | _ :: _, [] => none
  | w :: word, c :: s => if c = w then after? word s else none

end Widgetry.Text
