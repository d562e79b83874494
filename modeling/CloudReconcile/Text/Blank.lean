import CloudReconcile.Text.Ranges

/-!
# Blank characters

The characters with the Unicode property White_Space, and trimming them off a text.
-/

namespace CloudReconcile
namespace Text

/-- The property White_Space. -/
def blanks : Ranges :=
  [(0x9, 0xd), (0x20, 0x20), (0x85, 0x85), (0xa0, 0xa0), (0x1680, 0x1680), (0x2000, 0x200a),
   (0x2028, 0x2029), (0x202f, 0x202f), (0x205f, 0x205f), (0x3000, 0x3000)]

def isBlank (c : Char) : Bool :=
  blanks.mem c

def trim (text : List Char) : List Char :=
  ((text.dropWhile isBlank).reverse.dropWhile isBlank).reverse

example : trim [' ', '\t', 'a', ' ', 'b', '\u00a0', '\u3000'] = ['a', ' ', 'b'] := by decide

end Text
end CloudReconcile
