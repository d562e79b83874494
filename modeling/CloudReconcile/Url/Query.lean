import CloudReconcile.Text.Form
import CloudReconcile.Url.Basic

/-!
# Pairs in the query of an address
-/

namespace CloudReconcile
namespace Url

def withPair (u : Url) (name value : String) : Url :=
  let pair := Text.Form.pair name.toList value.toList
  let query := match u.query with
    | none => pair
    | some [] => pair
    | some query => query ++ '&' :: pair
  { u with query := some query }

end Url
end CloudReconcile
