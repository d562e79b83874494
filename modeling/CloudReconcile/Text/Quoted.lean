import CloudReconcile.Text.Printable
import CloudReconcile.Text.GraphemeExtend
import CloudReconcile.Text.Hex

/-!
# Quoted text

A text between double quotes in which everything that would not show as itself is escaped, so
that two different texts never look alike.
-/

namespace CloudReconcile
namespace Text

namespace Quoted

/-- The halfwidth sound marks, which take a place of their own. -/
def soundMarks : Ranges := [(0xff9e, 0xff9f)]

/-- The character shows by itself: it is printable, and does not attach to the one before it. -/
def isShown (c : Char) : Bool :=
  isPrintable c && (!isGraphemeExtend c || soundMarks.mem c)

/-- One character inside the quotes: the named escapes, then the code point for what does not
show on its own, else the character itself. -/
def escape (c : Char) : List Char :=
  if c = '"' then ['\\', '"']
  else if c = '\\' then ['\\', '\\']
  else if c = '\n' then ['\\', 'n']
  else if c = '\r' then ['\\', 'r']
  else if c = '\t' then ['\\', 't']
  else if c.toNat = 0 then ['\\', '0']
  else if isShown c then [c]
  else ['\\', 'u', '\x7b'] ++ hex c.toNat ++ ['\x7d']

end Quoted

def quoted (text : String) : String :=
  String.ofList ('"' :: (text.toList.flatMap Quoted.escape ++ ['"']))

end Text
end CloudReconcile
