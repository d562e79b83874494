import CloudReconcile.Text.Number
import CloudReconcile.Text.Quoted
import CloudReconcile.Url.Parser

/-!
# Settings of the operator

The settings come from named variables.  Each problem is reported by itself, the first one in the
order in which the variables are looked at.
-/

namespace CloudReconcile

inductive ConfigError where
  | endpointMissing
  | endpointInvalid (text : String) (cause : UrlError)
  | notSeconds (variableName text : String) (cause : NumberError)
  | notPositive (variableName : String)
deriving DecidableEq, Repr

namespace ConfigError

def message : ConfigError → String
  | .endpointMissing => "PROVIDER_ENDPOINT environment variable not set"
  | .endpointInvalid text _ => "PROVIDER_ENDPOINT is not a valid URL: " ++ text
  | .notSeconds name text _ =>
    name ++ " must be a number of seconds, got " ++ Text.quoted text
  | .notPositive name => name ++ " must be greater than zero"

def causes : ConfigError → List String
  | .endpointInvalid _ cause => [cause.message]
  | .notSeconds _ _ cause => [cause.message]
  | .endpointMissing | .notPositive _ => []

end ConfigError

/-- The settings of the operator; times are in seconds. -/
structure Config where
  endpoint : Option Url
  token : Option String
  pollInterval : Nat
  errorRequeue : Nat
  callTimeout : Nat
  testingMode : Bool
deriving DecidableEq, Repr

namespace Config

/-- A positive number of seconds. -/
def seconds (lookup : String → Option String) (name : String) (default : Nat) :
    Except ConfigError Nat := do
  let n ← match lookup name with
    | some text => (Text.number text).mapError (.notSeconds name text)
    | none => pure default
  if n = 0 then throw (.notPositive name) else return n

/-- The address of the gateway; only without a gateway in testing mode there is none. -/
def endpointOf (lookup : String → Option String) (testingMode : Bool) :
    Except ConfigError (Option Url) :=
  match lookup "PROVIDER_ENDPOINT" with
  | some text => ((Url.parse text).mapError (.endpointInvalid text)).map some
  | none => if testingMode then .ok none else .error .endpointMissing

def ofLookup (lookup : String → Option String) : Except ConfigError Config := do
  let testingMode : Bool := lookup "TESTING_MODE" = some "true"
  let endpoint ← endpointOf lookup testingMode
  let pollInterval ← seconds lookup "POLL_INTERVAL_SECS" 60
  let errorRequeue ← seconds lookup "ERROR_REQUEUE_SECS" 60
  let callTimeout ← seconds lookup "REMOTE_CALL_TIMEOUT_SECS" 30
  return {
    endpoint, pollInterval, errorRequeue, callTimeout, testingMode
    token := (lookup "PROVIDER_TOKEN").filter (· ≠ "") }

end Config

end CloudReconcile
