import CloudReconcile.Text.Composite
import CloudReconcile.Text.Percent
import CloudReconcile.Text.Utf8
import CloudReconcile.Url.Domain.Direction
import CloudReconcile.Url.Domain.Joining
import CloudReconcile.Url.Punycode

/-!
# Domain names

A domain name is brought into ASCII: its characters are folded and put together, so that each name
has one spelling, and labels with characters beyond ASCII are written in Punycode.  A label that is
already in Punycode has to describe one that this would give.
-/

namespace CloudReconcile
namespace Domain

def forbidden : List Char :=
  [' ', '#', '/', ':', '<', '>', '?', '@', '[', '\\', ']', '^', '|', '%']

def isAllowed (c : Char) : Bool :=
  0x20 < c.toNat && c.toNat < 0x7f && !forbidden.contains c

/-- How a label in Punycode begins. -/
def mark : List Char := ['x', 'n', '-', '-']

def isAscii (label : List Char) : Bool := label.all (·.toNat < 0x80)

def maxLabel : Nat := 1000

def maxPunycode : Nat := 2000

/-- A label beyond ASCII begins with a character of its own, and holds joiners only where they
matter. -/
def stands (label : List Char) : Bool :=
  label.length ≤ maxLabel && !(label.head?.any Text.isMark) && joined [] label

def isFolded (label : List Char) : Bool :=
  label.all (fun c => fold? c = some [c]) && Text.composed label = label

/-- The label that a folded one stands for: itself, or the one that its Punycode describes. -/
def label? (label : List Char) : Option (List Char) :=
  if mark.isPrefixOf label then
    let code := label.drop mark.length
    if !isAscii code || maxPunycode < code.length then none
    else (Punycode.decode? code).filter fun inner =>
      !isAscii inner && isFolded inner && stands inner
  else if isAscii label || stands label then some label
  else none

def toAscii (label : List Char) : List Char :=
  if isAscii label then label else mark ++ Punycode.encode label

/-- The labels of a name, from its text with percent-encoding. -/
def labels? (text : List Char) : Option (List (List Char)) := do
  let name ← Text.Utf8.decode? (Text.Percent.decode text)
  let folded ← name.mapM fold?
  let labels ← ((Text.composed folded.flatten).splitOn '.').mapM label?
  if directed labels then some labels else none

def toAscii? (text : List Char) : Option (List Char) := do
  let ascii := List.intercalate ['.'] ((← labels? text).map toAscii)
  if ascii.all isAllowed then some ascii else none

end Domain
end CloudReconcile
