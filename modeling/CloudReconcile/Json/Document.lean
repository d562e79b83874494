import CloudReconcile.Json.Codec
import CloudReconcile.Json.Reader
import CloudReconcile.Json.Writer

/-!
# Whole JSON texts

A document is one value and nothing behind it but space.
-/

namespace CloudReconcile
namespace Json

/-- A whole text: its value, and the fault of anything behind it. -/
structure Document where
  tree : Tree
  trailing : Option Fault

namespace Document

def ofBytes (bytes : List UInt8) : Document :=
  match Reader.value (3 * bytes.length + 3) ⟨0, bytes⟩ with
  | (tree, none) => ⟨tree, none⟩
  | (tree, some rest) =>
    let rest := rest.skipSpace
    ⟨tree, if rest.rest.isEmpty then none else some (rest.peekFault .trailingCharacters)⟩

end Document

namespace Codec

def parse {α : Type} (codec : Codec α) (bytes : List UInt8) : Except Problem α :=
  let document := Document.ofBytes bytes
  match codec.read document.tree, document.trailing with
  | .error problem, _ => .error problem
  | .ok _, some fault => .error (.fault fault)
  | .ok a, none => .ok a

def text {α : Type} (codec : Codec α) (a : α) : String :=
  (codec.write a).text

end Codec

end Json
end CloudReconcile
