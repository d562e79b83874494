import CloudReconcile.Kind

/-!
# Probes

A probe is an object with nothing but a mode.  Two modes have no JSON form: one cannot be written
and the other cannot be read back, so probes show what happens when remote objects do not survive
the way through JSON.
-/

namespace CloudReconcile
namespace Probe

/-- The wanted probe; its name addresses it, and an empty mode is no wish. -/
structure Params where
  name : String
  mode : String
deriving DecidableEq

structure Remote where
  mode : String
deriving DecidableEq

def Params.record : Json.Record Params Params :=
  Params.mk <$> Json.Record.required "name" .string (·.name)
    <*> Json.Record.defaulted "mode" .string "" (·.mode)

def Params.codec : Json.Codec Params := record.codec (.struct "ProbeParameters")

namespace Remote

/-- The JSON form of a probe is its mode. -/
def encode (r : Remote) : Except String Json.Value :=
  if r.mode = "unencodable" then .error "probe cannot be encoded" else .ok (.string r.mode)

def codec : Json.Codec Remote :=
  Json.Codec.string.refine Remote.mode fun mode =>
    if mode = "undecodable" then .error "probe cannot be decoded" else .ok ⟨mode⟩

end Remote

def project (p : Params) (r : Remote) : Remote :=
  if p.mode = "" then r else ⟨p.mode⟩

def kind : Kind where
  name := "Probe"
  Identity := String
  Params := Params
  Remote := Remote
  Observation := Unit
  identityEq := inferInstance
  paramsEq := inferInstance
  remoteEq := inferInstance
  observationEq := inferInstance
  identity := Params.name
  label := id
  path name := ["probes", name]
  query _ := []
  blank := ⟨""⟩
  unseen := ()
  lateInit p _ := p
  project := project
  observe o _ := o
  params := Params.codec
  observation := .unit
  encode := Remote.encode
  decode := Remote.codec.read
  specName := "ProbeSpec"

end Probe
end CloudReconcile
