import CloudReconcile.Operator.Config
import CloudReconcile.Operator.Controller
import CloudReconcile.Remote.Gateway

/-!
# Starting from the settings

Which remote system the settings speak of, and how the controllers of the operator are set up.
-/

namespace CloudReconcile

/-- Where the remote objects are. -/
inductive RemoteChoice where
  | memory
  | gateway (g : Gateway)
deriving DecidableEq, Repr

namespace Config

/-- The remote system of the settings.  Outside testing mode it needs an address. -/
def remote (c : Config) : Except ConfigError RemoteChoice :=
  if c.testingMode then .ok .memory
  else
    match c.endpoint with
    | some base => .ok (.gateway { base, token := c.token })
    | none => .error .endpointMissing

def controller (c : Config) (client : KindName) : Controller :=
  { client, pollInterval := c.pollInterval, errorRequeue := c.errorRequeue }

def timeout (c : Config) : Duration := .ofSeconds c.callTimeout

end Config

end CloudReconcile
