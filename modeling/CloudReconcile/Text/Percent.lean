import CloudReconcile.Text.Hex
import CloudReconcile.Text.Utf8

/-!
# Percent-encoding

A character that must not stand for itself is written byte by byte, each byte as `%` and two
hexadecimal digits.  Controls and everything beyond ASCII are always written so; a set names the
ASCII characters that are written so as well.
-/

namespace CloudReconcile
namespace Text
namespace Percent

/-- The ASCII characters, besides the controls, that do not stand for themselves. -/
abbrev Set := List Char

def encodeByte (b : UInt8) : List Char :=
  ['%', hexDigitUpper (b.toNat / 16), hexDigitUpper (b.toNat % 16)]

def isPlain (set : Set) (c : Char) : Bool :=
  0x20 ≤ c.toNat && c.toNat < 0x7f && !set.contains c

def encodeChar (set : Set) (c : Char) : List Char :=
  if isPlain set c then [c] else (Utf8.encodeChar c).flatMap encodeByte

def encode (set : Set) (text : List Char) : List Char :=
  text.flatMap (encodeChar set)

/-- The bytes of a text in which `%` and two hexadecimal digits stand for a byte. -/
def decode : List Char → List UInt8
  | [] => []
  | '%' :: a :: b :: rest =>
    match hexValue? a.toNat, hexValue? b.toNat with
    | some p, some q => UInt8.ofNat (p * 16 + q) :: decode rest
    | _, _ => Utf8.encodeChar '%' ++ decode (a :: b :: rest)
  | c :: rest => Utf8.encodeChar c ++ decode rest

end Percent
end Text
end CloudReconcile
