import YoukiRuntime.LogsCommand

/-!
# The `status` command

`orch status` shows up to three sections: the cluster status from `/api/v1/cluster/status`,
unless `--nodes-only` or `--workloads-only` is given; the nodes from `/api/v1/nodes`, unless
`--workloads-only`; and the workloads from `/api/v1/workloads`, unless `--nodes-only`,
keeping those whose name contains `--workload`, and with `--detailed` the instances of each
workload kept. A request or a body that fails is reported in its section, and the command
goes on to the next.

The text printed is left out: `execute` is modelled by the sequence of what it shows, each
section's title and data, or its failure with the message before the error.
-/

namespace YoukiRuntime

namespace StatusCommand

/-- `ClusterStatusResponse` of `status.rs`. -/
structure ClusterStatusResponse where
  nodeId : String
  clusterSize : Nat
  isLeader : Bool
  totalWorkloads : Nat
  totalInstances : Nat

/-- `NodeResponse` of `status.rs`. -/
structure NodeResponse where
  id : String
  status : String
  address : String
  availableCpuMillicores : Nat
  availableMemoryMb : Nat

/-- `ContainerInfo` of `status.rs`. -/
structure ContainerInfo where
  name : String
  image : String

/-- `WorkloadResponse` of `status.rs`. -/
structure WorkloadResponse where
  id : String
  name : String
  replicas : Nat
  containers : List ContainerInfo

/-- `InstanceResponse` of `status.rs`. -/
structure InstanceResponse where
  id : String
  workloadId : String
  nodeId : String
  status : String
  containerIds : List String

open Json

/-- `usize`, on a 64-bit target. -/
def decodeUsize : Decoder Nat := decodeUnsigned "usize" UInt64.size

/-- The derived `Deserialize` of `ClusterStatusResponse`. -/
def ClusterStatusResponse.fromJson (j : Json) : Except DecodeError ClusterStatusResponse := do
  let e ← objectEntries "struct ClusterStatusResponse" j
  let nodeId ← required decodeString e "node_id"
  let clusterSize ← required decodeUsize e "cluster_size"
  let isLeader ← required decodeBool e "is_leader"
  let totalWorkloads ← required decodeUsize e "total_workloads"
  let totalInstances ← required decodeUsize e "total_instances"
  pure ⟨nodeId, clusterSize, isLeader, totalWorkloads, totalInstances⟩

/-- The derived `Deserialize` of `NodeResponse`. -/
def NodeResponse.fromJson (j : Json) : Except DecodeError NodeResponse := do
  let e ← objectEntries "struct NodeResponse" j
  let id ← required decodeString e "id"
  let status ← required decodeString e "status"
  let address ← required decodeString e "address"
  let cpu ← required (decodeUnsigned "u64" UInt64.size) e "available_cpu_millicores"
  let memory ← required (decodeUnsigned "u64" UInt64.size) e "available_memory_mb"
  pure ⟨id, status, address, cpu, memory⟩

/-- The derived `Deserialize` of `ContainerInfo`. -/
def ContainerInfo.fromJson (j : Json) : Except DecodeError ContainerInfo := do
  let e ← objectEntries "struct ContainerInfo" j
  let name ← required decodeString e "name"
  let image ← required decodeString e "image"
  pure ⟨name, image⟩

/-- The derived `Deserialize` of `WorkloadResponse`. -/
def WorkloadResponse.fromJson (j : Json) : Except DecodeError WorkloadResponse := do
  let e ← objectEntries "struct WorkloadResponse" j
  let id ← required decodeString e "id"
  let name ← required decodeString e "name"
  let replicas ← required (decodeUnsigned "u32" UInt32.size) e "replicas"
  let containers ← required (decodeVec ContainerInfo.fromJson) e "containers"
  pure ⟨id, name, replicas, containers⟩

/-- The derived `Deserialize` of `InstanceResponse`. -/
def InstanceResponse.fromJson (j : Json) : Except DecodeError InstanceResponse := do
  let e ← objectEntries "struct InstanceResponse" j
  let id ← required decodeString e "id"
  let workloadId ← required decodeString e "workload_id"
  let nodeId ← required decodeString e "node_id"
  let status ← required decodeString e "status"
  let containerIds ← required (decodeVec decodeString) e "container_ids"
  pure ⟨id, workloadId, nodeId, status, containerIds⟩

end StatusCommand

end YoukiRuntime
