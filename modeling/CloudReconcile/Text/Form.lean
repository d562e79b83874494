import CloudReconcile.Text.Percent

/-!
# Form encoding

Names and values of a query: letters, digits and `*-._` stand for themselves, a space is `+`, and
any other byte is percent-encoded.
-/

namespace CloudReconcile
namespace Text
namespace Form

def isPlain (c : Char) : Bool :=
  c.isAlphanum || c = '*' || c = '-' || c = '.' || c = '_'

def encodeChar (c : Char) : List Char :=
  if isPlain c then [c]
  else if c = ' ' then ['+']
  else (Utf8.encodeChar c).flatMap Percent.encodeByte

def encode (text : List Char) : List Char :=
  text.flatMap encodeChar

def pair (name value : List Char) : List Char :=
  encode name ++ '=' :: encode value

end Form
end Text
end CloudReconcile
