import CloudReconcile.Crd.Kinds
import CloudReconcile.LogFilter
import CloudReconcile.Operator.Startup
import CloudReconcile.Yaml

/-!
# The command line

With `--print-crds` the program prints the definitions of its kinds.  Otherwise it starts from its
settings, which it logs, and works until it is stopped; here it ends as soon as it would connect to
a cluster.
-/

namespace CloudReconcile

/-- What the program does. -/
structure CommandLine where
  code : Nat
  printed : String
  log : List (LogLevel × String)
  failure : Option (String × List String)
deriving DecidableEq, Repr

namespace CommandLine

def definitions : String :=
  String.join (KindName.managed.map fun k => "---\n" ++ Yaml.text k.definition.write)

def loaded (c : Config) : String :=
  "Configuration loaded: endpoint=" ++
    (match c.endpoint with
      | some u => u.text
      | none => "<in-memory>") ++
    ", poll_interval=" ++ Decimal.natText c.pollInterval ++ "s, testing_mode=" ++
    (if c.testingMode then "true" else "false")

def variableNames : List String :=
  ["TESTING_MODE", "PROVIDER_ENDPOINT", "PROVIDER_TOKEN", "POLL_INTERVAL_SECS",
    "ERROR_REQUEUE_SECS", "REMOTE_CALL_TIMEOUT_SECS", "RUST_LOG"]

def noCluster : String := "no cluster to connect to"

def run (args : List String) (lookup : String → Option String) : CommandLine :=
  if args.contains "--print-crds" then
    { code := 0, printed := definitions, log := [], failure := none }
  else
    let log (lines : List String) : List (LogLevel × String) :=
      if LogFilter.shows lookup .info then lines.map fun line => (.info, line) else []
    let start := "Starting Keel operator"
    match Config.ofLookup lookup with
    | .error e =>
      { code := 1, printed := "", log := log [start], failure := some (e.message, e.causes) }
    | .ok c =>
      { code := 1, printed := "", log := log [start, loaded c]
        failure := some (noCluster, []) }

/-- Causes below an error; several are numbered. -/
def causeLines (causes : List String) : String :=
  match causes with
  | [] => ""
  | [cause] => "\n\nCaused by:\n    " ++ cause
  | causes => "\n\nCaused by:" ++ String.join (causes.zipIdx.map fun (cause, i) =>
      "\n    " ++ Decimal.natText i ++ ": " ++ cause)

def errors (c : CommandLine) : String :=
  match c.failure with
  | none => ""
  | some (message, causes) => "Error: " ++ message ++ causeLines causes ++ "\n"

end CommandLine

end CloudReconcile
