import CloudReconcile.Json.Document
import CloudReconcile.Json.Growth
import CloudReconcile.Kinds.Name

/-!
# What a provider adds to its objects

Some members of a remote object only the provider sets; no declaration has a wish about them.  Like
members that nobody knows, they can come and go as the provider likes.
-/

namespace CloudReconcile

open Json (Grown Known Tree)

namespace VaultSecret

/-- The attributes of a secret that only the vault sets. -/
def RemoteAttributes.spare : List Known :=
  ["created", "updated", "recoveryLevel"].map (Known.ofCodec · .string)

def RemoteAttributes.Grown (es es' : List (String × Tree)) : Prop :=
  Json.Enriched (RemoteAttributes.record.known.map (·.key)) RemoteAttributes.spare es es'

/-- Attributes that are there because the vault sets some of them. -/
def NewAttributes (key : String) (t : Tree) : Prop :=
  key = "attributes" ∧ ∃ es, t.Holds es ∧ RemoteAttributes.Grown [] es ∧
    ∃ e ∈ es, Json.Spare RemoteAttributes.spare e.1 e.2

/-- Attributes grow, and where it says that there are none there may be new ones. -/
def MoreAttributes (key : String) (t t' : Tree) : Prop :=
  key = "attributes" ∧
    ((∃ es es', t.Holds es ∧ t'.Holds es' ∧ RemoteAttributes.Grown es es') ∨
      (∃ span, t = .null span) ∧ NewAttributes key t')

end VaultSecret

namespace KindName

/-- The members that are known in a remote object. -/
def remoteKeys : KindName → List String
  | .keyValue => KeyValue.Remote.record.known.map (·.key)
  | .vaultSecret => VaultSecret.Remote.record.known.map (·.key)
  | .serverConfiguration => ServerConfiguration.Remote.record.known.map (·.key)
  | .bucket => Bucket.Remote.record.known.map (·.key)
  | .probe => []

/-- The members of a remote object that only the provider sets, apart from attributes. -/
def spare : KindName → List Known
  | .keyValue => ["etag", "lastModified"].map (Known.ofCodec · .string)
  | .vaultSecret =>
    [Known.ofCodec "id" .string, Known.ofCodec "kid" .string, Known.ofCodec "managed" .bool]
  | .serverConfiguration =>
    ["defaultValue", "dataType", "allowedValues", "description"].map (Known.ofCodec · .string)
  | .bucket => ["selfLink", "timeCreated", "etag"].map (Known.ofCodec · .string)
  | .probe => []

/-- The members of a remote object grow by what the provider adds to them. -/
def Adds (k : KindName) (es es' : List (String × Tree)) : Prop :=
  match k with
  | .vaultSecret =>
    Grown (remoteKeys .vaultSecret) (spare .vaultSecret) VaultSecret.NewAttributes
      VaultSecret.MoreAttributes es es'
  | k => Json.Enriched k.remoteKeys k.spare es es'

/-- The second text is the first one with members in it that a provider adds. -/
def AddsTo (k : KindName) (body body' : List UInt8) : Prop :=
  ∃ es es', (Json.Document.ofBytes body).tree.Holds es ∧
    (Json.Document.ofBytes body').tree.Holds es' ∧
    (Json.Document.ofBytes body').trailing = none ∧ k.Adds es es'

end KindName
end CloudReconcile
