import YoukiRuntime.Uuid
import YoukiRuntime.Path

/-!
# The runtime's records and errors

The data `youki_cli.rs` passes around: the configuration with its defaults, the records a
container is tracked and reported by, the youki state document, and the two error types
with the texts their `Display` implementations produce. Records keep only the fields
some modelled function reads or writes; durations are natural numbers of nanoseconds, the
resolution of `std::time::Duration`.
-/

namespace YoukiRuntime

/-- `YoukiCliConfig`, by the fields the modelled operations read: `youki_binary` names the
program `exec_youki` runs, whose answers are parameters here. -/
structure YoukiCliConfig where
  bundleRoot : String
  stateRoot : String
  commandTimeout : Nat
  stopTimeout : Nat

/-- One second, in nanoseconds. -/
def second : Nat := 1000000000

/-- `YoukiCliConfig::default`. -/
def YoukiCliConfig.default : YoukiCliConfig where
  bundleRoot := "/var/lib/orchestrator/bundles"
  stateRoot := "/run/youki"
  commandTimeout := 30 * second
  stopTimeout := 10 * second

/-- `YoukiCliRuntime::bundle_path`: `bundle_root/<node_id>/<container_id>`. -/
def YoukiCliConfig.bundlePath (cfg : YoukiCliConfig) (nodeId : NodeId)
    (containerId : String) : String :=
  joinPath (joinPath cfg.bundleRoot nodeId.toString) containerId

/-- The resource requests of a container; `cpu_cores` is an `f32`. -/
structure ResourceRequests where
  cpuCores : Float
  memoryMb : Nat

/-- `ContainerConfig`, by the fields `create_container` reads. -/
structure ContainerConfig where
  name : String
  image : String
  resourceRequests : ResourceRequests

/-- `CreateContainerOptions`, by the field `create_container` reads. -/
structure CreateContainerOptions where
  nodeId : NodeId

/-- The `OciBundleBuilder` that `create_container` configures before calling `build`. -/
structure OciBundleBuilder where
  bundlePath : String
  containerConfig : ContainerConfig
  cpuLimit : Option Float
  memoryLimit : Option Nat
  skipRootfsSetup : Bool

/-- The builder of `create_container`: resource limits are applied only when positive. -/
def bundleBuilder (bundlePath : String) (config : ContainerConfig) : OciBundleBuilder where
  bundlePath := bundlePath
  containerConfig := config
  cpuLimit :=
    if config.resourceRequests.cpuCores > 0.0 then some config.resourceRequests.cpuCores
    else none
  memoryLimit :=
    if config.resourceRequests.memoryMb > 0 then some config.resourceRequests.memoryMb else none
  skipRootfsSetup := true

/-- `ContainerState`, the registry entry of a container. -/
structure ContainerState where
  id : ContainerId
  nodeId : NodeId
  bundlePath : String
  status : String
  pid : Option Int
  deriving DecidableEq

/-- `ContainerStatus`, what status queries report. -/
structure ContainerStatus where
  id : ContainerId
  state : String
  exitCode : Option Int
  errorMessage : Option String

/-- `YoukiState`, by the field the runtime reads from `youki state`. -/
structure YoukiState where
  status : String
  deriving DecidableEq

/-- The `YoukiCliError` variants the lifecycle operations construct. -/
inductive YoukiCliError
  | commandFailed (command message : String)
  | containerNotFound (id : String)
  | invalidState (msg : String)
  | io (err : String)
  | timeout (cmd : String)
  deriving DecidableEq

/-- `YoukiCliError`'s `Display`, from its `#[error(...)]` attributes. -/
def YoukiCliError.toString : YoukiCliError → String
  | .commandFailed command message => "Youki command failed: " ++ command ++ " - " ++ message
  | .containerNotFound id => "Container not found: " ++ id
  | .invalidState msg => "Invalid state output: " ++ msg
  | .io err => "I/O error: " ++ err
  | .timeout cmd => "Timeout: " ++ cmd

/-- `OrchestrationError`, by the variant the runtime constructs. -/
inductive OrchestrationError
  | runtimeError (msg : String)
  deriving DecidableEq

/-- `orchestrator_shared_types::Result`. -/
abbrev Result (α : Type) := Except OrchestrationError α

end YoukiRuntime
