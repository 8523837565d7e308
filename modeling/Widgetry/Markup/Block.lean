/-! Markup is taken in block by block, a block being a fixed number of bytes. A character that lies
in two blocks is one by itself. -/

namespace Widgetry.Markup

/-- The number of bytes in a block. -/
def blockSize : Nat := 4096

/-- The blocks of a text. What has been read of the first is `block`, its latest character first,
and `room` is how many bytes it still takes. -/
def blocksFrom (room : Nat) (block : List Char) : List Char → List (List Char)
  | [] => [block.reverse]
  | c :: s =>
    if c.utf8Size < room then blocksFrom (room - c.utf8Size) (c :: block) s
    else if c.utf8Size = room then (c :: block).reverse :: blocksFrom blockSize [] s
    else block.reverse :: [c] :: blocksFrom (blockSize + room - c.utf8Size) [] s

/-- The blocks of a text. -/
def blocks (text : List Char) : List (List Char) := blocksFrom blockSize [] text

end Widgetry.Markup
