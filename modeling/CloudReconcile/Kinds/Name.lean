import CloudReconcile.Kinds.Bucket
import CloudReconcile.Kinds.KeyValue
import CloudReconcile.Kinds.Probe
import CloudReconcile.Kinds.ServerConfiguration
import CloudReconcile.Kinds.VaultSecret

/-!
# The kinds of this library

Four kinds are served by the operator; probes are for trying things out.
-/

namespace CloudReconcile

inductive KindName where
  | keyValue
  | vaultSecret
  | serverConfiguration
  | bucket
  | probe
deriving DecidableEq, Repr

namespace KindName

def kind : KindName → Kind
  | .keyValue => KeyValue.kind
  | .vaultSecret => VaultSecret.kind
  | .serverConfiguration => ServerConfiguration.kind
  | .bucket => Bucket.kind
  | .probe => Probe.kind

/-- The kinds that the operator serves. -/
def managed : List KindName := [.keyValue, .vaultSecret, .serverConfiguration, .bucket]

def text (k : KindName) : String := k.kind.name

def ofText? (name : String) : Option KindName :=
  (managed ++ [KindName.probe]).find? fun k => k.text = name

/-- What a provider that stamps its objects does with the `n`-th write. -/
def stamp : (k : KindName) → k.kind.Remote → Nat → k.kind.Remote
  | .keyValue => KeyValue.stamp
  | .vaultSecret => VaultSecret.stamp
  | .serverConfiguration => ServerConfiguration.stamp
  | .bucket => Bucket.stamp
  | .probe => fun r _ => r

end KindName
end CloudReconcile
