import CloudReconcile.Text.Blank
import CloudReconcile.Text.Utf8

/-!
# Requests and responses
-/

namespace CloudReconcile
namespace Http

inductive Method where
  | get
  | put
  | delete
deriving DecidableEq, Repr

def Method.text : Method → String
  | .get => "GET"
  | .put => "PUT"
  | .delete => "DELETE"

structure Request where
  method : Method
  target : String
  contentType : Option String
  authorization : Option String
  body : String
deriving DecidableEq, Repr

structure Response where
  status : Nat
  body : List UInt8
deriving DecidableEq, Repr

def Response.text (r : Response) : String :=
  String.ofList (Text.trim (Text.Utf8.lossy r.body))

/-- No control but the tab can be part of a header. -/
def isHeaderText (text : String) : Bool :=
  text.toList.all fun c => (0x20 ≤ c.toNat && c.toNat ≠ 0x7f) || c = '\t'

end Http
end CloudReconcile
