import Mathlib.Data.Nat.Digits
import YoukiRuntime.WorkloadApi

/-!
# The cluster status

`get_cluster_status` lists the nodes, the workloads and all instances, each with a
`StateStore` call under `?`, and reports counts and resource totals: how many nodes are
`Ready` and how many are not, how many instances are `Running`, `Pending` and `Failed`, and
the sums of the nodes' capacity and allocatable resources, folded in `f32` and `u64`.

The two `f32` sums of `cpu_cores` are left out: Lean has no `f32`, and a sum in `Float`
rounds differently. The model reports the counts and the two `u64` memory totals.

`Node`, `NodeStatus`, `NodeResources` and `WorkloadInstanceStatus` are not among the
sources. A status is one of the variants the handler compares with, or another variant,
known by its `Debug` name; an instance is known by its status, the only field the handler
reads of it.

The `u64` sums are computed with `+` in the fold. A release build keeps them modulo `2^64`,
which is the model; a debug build panics instead, on exactly the lists whose sum reaches
`2^64`.

## Main results

* `clusterStatus_of_ok`: when the handler answers, its counts agree with each other and
  with the listings: ready and not-ready nodes make up all nodes, the running, pending and
  failed instances are among all instances, and each memory total is the nodes' sum modulo
  `2^64`.
-/

namespace YoukiRuntime

/-- `NodeStatus`: `Ready`, or another variant by its `Debug` name. -/
inductive NodeStatus
  | ready
  | other (debugName : String)
  deriving DecidableEq

/-- `NodeResources`, by the field of it `get_cluster_status` sums in the model. -/
structure NodeResources where
  memoryMb : UInt64

/-- `Node`, by the fields `get_cluster_status` reads. -/
structure Node where
  status : NodeStatus
  resourcesCapacity : NodeResources
  resourcesAllocatable : NodeResources

/-- `WorkloadInstanceStatus`: the variants `get_cluster_status` counts, or another by its
`Debug` name. -/
inductive WorkloadInstanceStatus
  | running
  | pending
  | failed
  | other (debugName : String)
  deriving DecidableEq

/-- `ClusterStatusResponse`, without `total_cpu_capacity` and `total_cpu_allocatable`. -/
structure ClusterStatusResponse where
  totalNodes : Nat
  readyNodes : Nat
  notReadyNodes : Nat
  totalWorkloads : Nat
  totalInstances : Nat
  runningInstances : Nat
  pendingInstances : Nat
  failedInstances : Nat
  totalMemoryMb : UInt64
  totalMemoryAllocatableMb : UInt64

/-- The `u64` half of the folds of `get_cluster_status` over the nodes, from `0`, of the
resources `resources` picks: capacity or allocatable. -/
def resourceTotals (resources : Node → NodeResources) (nodes : List Node) : UInt64 :=
  nodes.foldl (fun acc n => acc + (resources n).memoryMb) 0

/-- `get_cluster_status`, with `nodes`, `workloads` and `instances` what `list_nodes`,
`list_workloads` and `list_all_instances` return. -/
def getClusterStatus (nodes : Except StateError (List Node))
    (workloads : Except StateError (List WorkloadDefinition))
    (instances : Except StateError (List WorkloadInstanceStatus)) :
    Except ApiError ClusterStatusResponse := do
  let nodes ← nodes.mapError .stateError
  let totalNodes := nodes.length
  let readyNodes := (nodes.filter (·.status == .ready)).length
  let notReadyNodes := totalNodes - readyNodes
  let totalMemoryMb := resourceTotals (·.resourcesCapacity) nodes
  let totalMemoryAllocatableMb := resourceTotals (·.resourcesAllocatable) nodes
  let workloads ← workloads.mapError .stateError
  let totalWorkloads := workloads.length
  let instances ← instances.mapError .stateError
  let totalInstances := instances.length
  let runningInstances := (instances.filter (· == .running)).length
  let pendingInstances := (instances.filter (· == .pending)).length
  let failedInstances := (instances.filter (· == .failed)).length
  pure { totalNodes, readyNodes, notReadyNodes, totalWorkloads, totalInstances,
         runningInstances, pendingInstances, failedInstances, totalMemoryMb,
         totalMemoryAllocatableMb }

/-! ### The folds and the counts -/

/-- `u64` addition wraps modulo `2^64`. -/
theorem toNat_add_u64 (a b : UInt64) : (a + b).toNat = (a.toNat + b.toNat) % 2 ^ 64 := by
  rw [UInt64.add_def]
  exact BitVec.toNat_add _ _

/-- The `u64` total of a fold: the sum from the start value, modulo `2^64`. -/
theorem toNat_foldl_memory (resources : Node → NodeResources) (nodes : List Node)
    (acc : UInt64) :
    (nodes.foldl (fun acc n => acc + (resources n).memoryMb) acc).toNat =
      (acc.toNat + (nodes.map fun n => (resources n).memoryMb.toNat).sum) % 2 ^ 64 := by
  induction nodes generalizing acc with
  | nil => simp [Nat.mod_eq_of_lt (UInt64.toNat_lt_size acc)]
  | cons n nodes ih =>
    rw [List.foldl_cons, ih, toNat_add_u64, List.map_cons, List.sum_cons, Nat.mod_add_mod,
      Nat.add_assoc]

/-- The memory total of `resourceTotals` is the nodes' sum modulo `2^64`. -/
theorem toNat_resourceTotals (resources : Node → NodeResources) (nodes : List Node) :
    (resourceTotals resources nodes).toNat =
      (nodes.map fun n => (resources n).memoryMb.toNat).sum % 2 ^ 64 := by
  rw [resourceTotals, toNat_foldl_memory]
  simp

/-- A `Ready` node with 8 GiB of capacity and 7 GiB allocatable. -/
def sampleNode : Node := ⟨.ready, ⟨8192⟩, ⟨7168⟩⟩

/-- Two nodes of `2^63` MB each add up to `0`. -/
example : resourceTotals (·.resourcesCapacity)
    [⟨.ready, ⟨9223372036854775808⟩, ⟨0⟩⟩, ⟨.ready, ⟨9223372036854775808⟩, ⟨0⟩⟩] = 0 := by
  decide

/-- Instances counted as running, pending or failed are counted once each. -/
theorem counted_instances_le (instances : List WorkloadInstanceStatus) :
    (instances.filter (· == .running)).length + (instances.filter (· == .pending)).length +
      (instances.filter (· == .failed)).length ≤ instances.length := by
  induction instances with
  | nil => simp
  | cons i instances ih =>
    cases i <;> simp [List.filter_cons] <;> omega

/-- **The cluster status is consistent.** Whenever `get_cluster_status` answers, all three
listings succeeded; the ready and the not-ready nodes make up all nodes, the running,
pending and failed instances are among all instances, and each memory total is the sum over
the nodes modulo `2^64`. -/
theorem clusterStatus_of_ok {nodes : Except StateError (List Node)}
    {workloads : Except StateError (List WorkloadDefinition)}
    {instances : Except StateError (List WorkloadInstanceStatus)} {r : ClusterStatusResponse}
    (h : getClusterStatus nodes workloads instances = .ok r) :
    ∃ ns ws is, nodes = .ok ns ∧ workloads = .ok ws ∧ instances = .ok is ∧
      r.totalNodes = ns.length ∧ r.readyNodes + r.notReadyNodes = r.totalNodes ∧
      r.totalWorkloads = ws.length ∧ r.totalInstances = is.length ∧
      r.runningInstances + r.pendingInstances + r.failedInstances ≤ r.totalInstances ∧
      r.totalMemoryMb.toNat =
        (ns.map fun n => n.resourcesCapacity.memoryMb.toNat).sum % 2 ^ 64 ∧
      r.totalMemoryAllocatableMb.toNat =
        (ns.map fun n => n.resourcesAllocatable.memoryMb.toNat).sum % 2 ^ 64 := by
  cases nodes with
  | error e => cases h
  | ok ns =>
    cases workloads with
    | error e => cases h
    | ok ws =>
      cases instances with
      | error e => cases h
      | ok is =>
        cases h
        refine ⟨ns, ws, is, rfl, rfl, rfl, rfl, ?_, rfl, rfl, counted_instances_le is,
          toNat_resourceTotals _ ns, toNat_resourceTotals _ ns⟩
        have := List.length_filter_le (·.status == .ready) ns
        dsimp only
        omega

/-- A cluster of one ready node counts it once, as ready. -/
theorem sampleNode_status_consistent :
    ∃ r, getClusterStatus (.ok [sampleNode]) (.ok []) (.ok [.running, .other "Succeeded"]) =
        .ok r ∧ r.readyNodes + r.notReadyNodes = r.totalNodes := by
  obtain ⟨-, -, -, -, -, -, -, hnodes, -⟩ :=
    @clusterStatus_of_ok (.ok [sampleNode]) (.ok []) (.ok [.running, .other "Succeeded"]) _ rfl
  exact ⟨_, rfl, hnodes⟩

end YoukiRuntime
