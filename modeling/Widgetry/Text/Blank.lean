import Widgetry.Text.Ranges

/-! White space: the tab to carriage return block, the space, and the breaks and spaces of other
scripts. -/

namespace Widgetry.Text

/-- The white space characters, in ascending order. -/
def blankRanges : Ranges :=
  [(0x9, 0xD), (0x20, 0x20), (0x85, 0x85), (0xA0, 0xA0), (0x1680, 0x1680), (0x2000, 0x200A),
   (0x2028, 0x2029), (0x202F, 0x202F), (0x205F, 0x205F), (0x3000, 0x3000)]

/-- A space, a tab, a line break or one of their relatives. -/
def isBlank (c : Char) : Bool := blankRanges.covers c

/-- The text without the white space at its two ends. -/
def trim (s : List Char) : List Char :=
  ((s.dropWhile isBlank).reverse.dropWhile isBlank).reverse

end Widgetry.Text
