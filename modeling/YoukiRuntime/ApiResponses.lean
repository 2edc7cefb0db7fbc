import YoukiRuntime.ClusterStatus
import YoukiRuntime.Deploy
import YoukiRuntime.StatusCommand

/-!
# What the client reads of the server's answers

The list handlers `list_workloads`, `list_nodes` and `list_workload_instances` answer with a
`ListResponse { items, count }`, a JSON object, where the `logs` and `status` commands of
the client read the same paths as a `Vec`, a JSON array. `get_cluster_status` answers with
a `ClusterStatusResponse` that has none of the fields `node_id`, `cluster_size` and
`is_leader`, which the client's `ClusterStatusResponse` requires. So no answer of these
handlers decodes on the client's side, whatever the store holds.

The routes are not among the sources: each path the client requests is taken to be served
by the handler of the same name. A list's items are given already serialized, so the
results hold whatever the items are.

The items of the lists do not share the fault: the server's workloads and instances are
read by the client's types, its nodes are not. The answer of `create_workload` to the
request of `orch deploy` is read back with the new workload's identifier, name and replicas.
`From<WorkloadDefinition> for WorkloadResponse` is modelled on the fields the model of a
workload keeps.

## Main results

* `logs_never_shows_instances`: `orch logs` ends in an error, for every argument list: at
  the listing of workloads when the reference is not a UUID, at the listing of the
  workload's instances when it is.
* `status_never_shows_data`: `orch status` shows headings and failures only, and shows the
  same whatever the server answers on the instance paths.
* `list_items_read_by_clients`: the workload and instance items are read by the clients,
  the node items never are.
* `deploy_reports_created_workload`: `orch deploy` reads back the workload the server has
  stored.
-/

namespace YoukiRuntime

/-- The derived `Serialize` of a `ListResponse` whose items serialize to `items`; `count` is
their number. -/
def listResponseJson (items : List Json) : Json :=
  .obj [("items", .arr items), ("count", .num items.length)]

/-- The derived `Serialize` of the server's `ClusterStatusResponse`, without the two `f32`
CPU totals, which the model leaves out and the client does not read. -/
def ClusterStatusResponse.toJson (r : ClusterStatusResponse) : Json :=
  .obj [("total_nodes", .num r.totalNodes), ("ready_nodes", .num r.readyNodes),
    ("not_ready_nodes", .num r.notReadyNodes), ("total_workloads", .num r.totalWorkloads),
    ("total_instances", .num r.totalInstances), ("running_instances", .num r.runningInstances),
    ("pending_instances", .num r.pendingInstances), ("failed_instances", .num r.failedInstances),
    ("total_memory_mb", .num r.totalMemoryMb.toNat),
    ("total_memory_allocatable_mb", .num r.totalMemoryAllocatableMb.toNat)]

/-- An answer of a list handler: a failure, or a `ListResponse`. -/
def ListAnswer (answer : Except CliError Json) : Prop :=
  ∀ body, answer = .ok body → ∃ items, body = listResponseJson items

/-- The error the client reports for a list handler's answer read as a `Vec`: the error of
the request, or that of a body that is not a sequence. -/
def listError : Except CliError Json → CliError
  | .error e => e
  | .ok _ => .decode (.invalidType "a sequence")

/-- A `Vec` is never read from a list handler's answer. -/
theorem clientGet_listAnswer {α : Type} {answer : Except CliError Json} (h : ListAnswer answer)
    (dec : Decoder α) : clientGet answer (Json.decodeVec dec) = .error (listError answer) := by
  cases answer with
  | error e => rfl
  | ok body =>
    obtain ⟨items, rfl⟩ := h body rfl
    rfl

/-- **`orch logs` always fails.** Whatever the workload reference and the flags, and
whatever the list handlers answer, `execute` returns an error and shows nothing. A reference
`parse_str` rejects fails at the listing of the workloads, with the error of that request or,
when it answers, with the body not being a sequence; any other reference fails in the same
way at the listing of its instances. -/
theorem logs_never_shows_instances (args : LogsCommand.LogsArgs)
    (answer : String → Except CliError Json)
    (hworkloads : ListAnswer (answer "/api/v1/workloads"))
    (hinstances : ∀ workloadId, ListAnswer (answer (instancesPath workloadId))) :
    (Uuid.parseStr args.workload = none →
      logsExecute args answer = some (.error (listError (answer "/api/v1/workloads")))) ∧
    (Uuid.parseStr args.workload ≠ none →
      logsExecute args answer =
        some (.error (listError (answer (instancesPath args.workload))))) := by
  have hw := clientGet_listAnswer hworkloads LogsCommand.WorkloadResponse.fromJson
  have hi := clientGet_listAnswer (hinstances args.workload) LogsCommand.InstanceResponse.fromJson
  refine ⟨fun hnone => ?_, fun hsome => ?_⟩
  · simp only [logsExecute, hw, findWorkloadId, hnone, Option.isSome_none, Bool.false_eq_true,
      ↓reduceIte]
    rfl
  · simp only [logsExecute, findWorkloadId, Option.isSome_iff_ne_none.2 hsome, ↓reduceIte, hi]

/-- A list handler's answer for a store with nothing in it. -/
theorem listAnswer_empty : ListAnswer (.ok (listResponseJson [])) :=
  fun _ h => ⟨[], (Except.ok.inj h).symm⟩

/-- `orch logs web`, against a server that lists no workloads, fails to decode the list. -/
theorem logs_of_web_fails :
    Uuid.parseStr "web" = none ∧ logsExecute ⟨"web", false, none, none⟩
      (fun _ => .ok (listResponseJson [])) = some (.error (.decode (.invalidType "a sequence"))) :=
  have hnone : Uuid.parseStr "web" = none := by decide
  ⟨hnone, (logs_never_shows_instances _ _ listAnswer_empty fun _ => listAnswer_empty).1 hnone⟩

namespace Api

/-- `PortMappingResponse`. -/
structure PortMappingResponse where
  containerPort : UInt16
  hostPort : Option UInt16
  protocol : String

/-- `ResourceRequestsResponse`; `cpu_cores` is an `f32`. -/
structure ResourceRequestsResponse where
  cpuCores : Float
  memoryMb : UInt64
  diskMb : UInt64

/-- `ContainerConfigResponse`. -/
structure ContainerConfigResponse where
  name : String
  image : String
  command : Option (List String)
  args : Option (List String)
  envVars : HashMap String String
  ports : List PortMappingResponse
  resourceRequests : ResourceRequestsResponse

/-- `WorkloadResponse`. -/
structure WorkloadResponse where
  id : Uuid
  name : String
  replicas : UInt32
  labels : HashMap String String
  containers : List ContainerConfigResponse

/-- `NodeResponse`. -/
structure NodeResponse where
  id : Uuid
  address : String
  status : String
  labels : HashMap String String
  resourcesCapacity : ResourceRequestsResponse
  resourcesAllocatable : ResourceRequestsResponse

/-- `InstanceResponse`. -/
structure InstanceResponse where
  id : Uuid
  workloadId : Uuid
  nodeId : Uuid
  containerIds : List String
  status : String

/-- The derived `Serialize` of `PortMappingResponse`. -/
def PortMappingResponse.toJson (p : PortMappingResponse) : Json :=
  .obj [("container_port", .num p.containerPort.toNat),
    ("host_port", .ofOption (fun port => .num port.toNat) p.hostPort),
    ("protocol", .str p.protocol)]

/-- The derived `Serialize` of `ResourceRequestsResponse`. -/
def ResourceRequestsResponse.toJson (r : ResourceRequestsResponse) : Json :=
  .obj [("cpu_cores", .float r.cpuCores), ("memory_mb", .num r.memoryMb.toNat),
    ("disk_mb", .num r.diskMb.toNat)]

/-- The derived `Serialize` of `ContainerConfigResponse`, with `iter` the iteration of each
map. -/
def ContainerConfigResponse.toJson (iter : HashMap String String → List (String × String))
    (c : ContainerConfigResponse) : Json :=
  .obj [("name", .str c.name), ("image", .str c.image),
    ("command", .ofOption (fun xs => .arr (xs.map .str)) c.command),
    ("args", .ofOption (fun xs => .arr (xs.map .str)) c.args),
    ("env_vars", .ofStringMap (iter c.envVars)),
    ("ports", .arr (c.ports.map PortMappingResponse.toJson)),
    ("resource_requests", c.resourceRequests.toJson)]

/-- The derived `Serialize` of `WorkloadResponse`; a `Uuid` is written as its hyphenated
text. -/
def WorkloadResponse.toJson (iter : HashMap String String → List (String × String))
    (r : WorkloadResponse) : Json :=
  .obj [("id", .str r.id.toString), ("name", .str r.name), ("replicas", .num r.replicas.toNat),
    ("labels", .ofStringMap (iter r.labels)),
    ("containers", .arr (r.containers.map (ContainerConfigResponse.toJson iter)))]

/-- The derived `Serialize` of `NodeResponse`. -/
def NodeResponse.toJson (iter : HashMap String String → List (String × String))
    (n : NodeResponse) : Json :=
  .obj [("id", .str n.id.toString), ("address", .str n.address), ("status", .str n.status),
    ("labels", .ofStringMap (iter n.labels)),
    ("resources_capacity", n.resourcesCapacity.toJson),
    ("resources_allocatable", n.resourcesAllocatable.toJson)]

/-- The derived `Serialize` of `InstanceResponse`. -/
def InstanceResponse.toJson (i : InstanceResponse) : Json :=
  .obj [("id", .str i.id.toString), ("workload_id", .str i.workloadId.toString),
    ("node_id", .str i.nodeId.toString), ("container_ids", .arr (i.containerIds.map .str)),
    ("status", .str i.status)]

/-- `From<WorkloadDefinition> for WorkloadResponse`, on the fields the model of a workload
keeps: `r` copies the id, name, replicas and labels of `w`, and the name, image and
resource requests of each of its containers. -/
def WorkloadResponse.ConvertedFrom (r : WorkloadResponse) (w : WorkloadDefinition) : Prop :=
  r.id = w.id ∧ r.name = w.name ∧ r.replicas.toNat = w.replicas ∧ r.labels = w.labels ∧
    List.Forall₂ (fun c cfg => c.name = cfg.name ∧ c.image = cfg.image ∧
        c.resourceRequests.cpuCores = cfg.resourceRequests.cpuCores ∧
        c.resourceRequests.memoryMb.toNat = cfg.resourceRequests.memoryMb)
      r.containers w.containers

/-! What each client reads of an item. -/

open Json

variable (iter : HashMap String String → List (String × String))

/-- `orch status` reads a container's name and image. -/
theorem ContainerConfigResponse.statusFromJson_toJson (c : ContainerConfigResponse) :
    StatusCommand.ContainerInfo.fromJson (c.toJson iter) = pure ⟨c.name, c.image⟩ := by
  simp only [StatusCommand.ContainerInfo.fromJson, ContainerConfigResponse.toJson,
    objectEntries_obj, pure_bind, required, decodeField, List.filter, String.reduceBEq,
    decodeString_str]

/-- `orch status` reads a workload's id, name, replicas and containers. -/
theorem WorkloadResponse.statusFromJson_toJson (r : WorkloadResponse) :
    StatusCommand.WorkloadResponse.fromJson (r.toJson iter) =
      pure ⟨r.id.toString, r.name, r.replicas.toNat,
        r.containers.map fun c => ⟨c.name, c.image⟩⟩ := by
  have hcontainers := decodeVec_map StatusCommand.ContainerInfo.fromJson
    (ContainerConfigResponse.toJson iter) _ r.containers
    fun c _ => c.statusFromJson_toJson iter
  simp only [StatusCommand.WorkloadResponse.fromJson, WorkloadResponse.toJson, objectEntries_obj,
    pure_bind, required, decodeField, List.filter, String.reduceBEq, decodeString_str,
    decodeUnsigned_num (UInt32.toNat_lt_size _), hcontainers]

/-- `orch logs` reads a workload's id and name. -/
theorem WorkloadResponse.logsFromJson_toJson (r : WorkloadResponse) :
    LogsCommand.WorkloadResponse.fromJson (r.toJson iter) = pure ⟨r.id.toString, r.name⟩ := by
  simp only [LogsCommand.WorkloadResponse.fromJson, WorkloadResponse.toJson, objectEntries_obj,
    pure_bind, required, decodeField, List.filter, String.reduceBEq, decodeString_str]

/-- `orch deploy` reads a workload's id, name and replicas. -/
theorem WorkloadResponse.deployFromJson_toJson (r : WorkloadResponse) :
    Deploy.WorkloadResponse.fromJson (r.toJson iter) =
      pure ⟨r.id.toString, r.name, r.replicas.toNat⟩ := by
  simp only [Deploy.WorkloadResponse.fromJson, WorkloadResponse.toJson, objectEntries_obj,
    pure_bind, required, decodeField, List.filter, String.reduceBEq, decodeString_str,
    decodeUnsigned_num (UInt32.toNat_lt_size _)]

/-- `orch status` reads every field of an instance. -/
theorem InstanceResponse.statusFromJson_toJson (i : InstanceResponse) :
    StatusCommand.InstanceResponse.fromJson i.toJson =
      pure ⟨i.id.toString, i.workloadId.toString, i.nodeId.toString, i.status,
        i.containerIds⟩ := by
  simp only [StatusCommand.InstanceResponse.fromJson, InstanceResponse.toJson,
    objectEntries_obj, pure_bind, required, decodeField, List.filter, String.reduceBEq,
    decodeString_str, decodeVec_str]

/-- `orch logs` reads an instance's id, node, status and containers. -/
theorem InstanceResponse.logsFromJson_toJson (i : InstanceResponse) :
    LogsCommand.InstanceResponse.fromJson i.toJson =
      pure ⟨i.id.toString, i.nodeId.toString, i.status, i.containerIds⟩ := by
  simp only [LogsCommand.InstanceResponse.fromJson, InstanceResponse.toJson, objectEntries_obj,
    pure_bind, required, decodeField, List.filter, String.reduceBEq, decodeString_str,
    decodeVec_str]

/-- The client's `NodeResponse` asks for `available_cpu_millicores`, which the server's
never has. -/
theorem NodeResponse.statusFromJson_toJson (n : NodeResponse) :
    StatusCommand.NodeResponse.fromJson (n.toJson iter) =
      .error (.missingField "available_cpu_millicores") := by
  simp only [StatusCommand.NodeResponse.fromJson, NodeResponse.toJson, objectEntries_obj,
    pure_bind, required, decodeField, List.filter, String.reduceBEq, decodeString_str]
  rfl

end Api

/-- **The items of the lists are read, but for the nodes.** Whatever they hold and however
their maps are written, a workload item is read by the `WorkloadResponse` of `status` and
of `logs`, and an instance item by the `InstanceResponse` of each, with the same fields and
the identifiers as text; a node item is never read by the `NodeResponse` of `status`, which
requires `available_cpu_millicores`. -/
theorem list_items_read_by_clients (iter : HashMap String String → List (String × String)) :
    (∀ r : Api.WorkloadResponse,
      StatusCommand.WorkloadResponse.fromJson (r.toJson iter) =
        .ok ⟨r.id.toString, r.name, r.replicas.toNat,
          r.containers.map fun c => ⟨c.name, c.image⟩⟩ ∧
      LogsCommand.WorkloadResponse.fromJson (r.toJson iter) = .ok ⟨r.id.toString, r.name⟩) ∧
    (∀ i : Api.InstanceResponse,
      StatusCommand.InstanceResponse.fromJson i.toJson =
        .ok ⟨i.id.toString, i.workloadId.toString, i.nodeId.toString, i.status,
          i.containerIds⟩ ∧
      LogsCommand.InstanceResponse.fromJson i.toJson =
        .ok ⟨i.id.toString, i.nodeId.toString, i.status, i.containerIds⟩) ∧
    ∀ n : Api.NodeResponse, StatusCommand.NodeResponse.fromJson (n.toJson iter) =
      .error (.missingField "available_cpu_millicores") :=
  ⟨fun r => ⟨r.statusFromJson_toJson iter, r.logsFromJson_toJson iter⟩,
    fun i => ⟨i.statusFromJson_toJson, i.logsFromJson_toJson⟩,
    fun n => n.statusFromJson_toJson iter⟩

/-- **`orch deploy` reports the workload the server stored.** For every argument list with a
name and at least one replica, and whatever order its label map is written in: when
`put_workload` succeeds and the orchestrator's receiver is alive, `create_workload` answers
with the new workload, which it has stored, and `execute` reads from the `WorkloadResponse`
of that workload, however the server writes its maps, the new identifier as text, the name
and the replicas given. -/
theorem deploy_reports_created_workload (args : DeployArgs)
    (iter : HashMap String String → List (String × String))
    (hlabels : (HashMap.insertAll args.label).Enumerates (iter (HashMap.insertAll args.label)))
    (o : Outcomes) (newId : Uuid) (s : StateStore) (hname : args.name.isEmpty = false)
    (hreplicas : 0 < args.replicas.toNat) (hput : o.putWorkload = none)
    (hopen : o.channelOpen = true) :
    ∃ request w, Api.CreateWorkloadRequest.fromJson (args.request.toJson iter) = .ok request ∧
      createWorkload o newId request.toRequest s = (.ok w, s.putWorkload w) ∧
      ∀ (r : Api.WorkloadResponse) (iter' : HashMap String String → List (String × String)),
        r.ConvertedFrom w →
          Deploy.WorkloadResponse.fromJson (r.toJson iter') =
            .ok ⟨newId.toString, args.name, args.replicas.toNat⟩ := by
  refine ⟨_, _, Deploy.CreateWorkloadRequest.fromJson_toJson iter args.request hlabels,
    createWorkload_of_checks o _ s newId hname rfl (Nat.pos_iff_ne_zero.1 hreplicas) hput hopen,
    fun r iter' hr => ?_⟩
  obtain ⟨hid, hrname, hrreplicas, -⟩ := hr
  rw [r.deployFromJson_toJson, hid, hrname, hrreplicas]
  rfl

/-- Deploying `web` against an empty store reports the workload it stored. -/
theorem webDeploy_reports_created :
    ∃ request w, Api.CreateWorkloadRequest.fromJson
        (webDeploy.request.toJson fun _ => [("tier", "web")]) = .ok request ∧
      createWorkload ⟨none, none, none, none, true⟩ (sampleUuid 1) request.toRequest .empty =
        (.ok w, StateStore.empty.putWorkload w) ∧
      ∀ (r : Api.WorkloadResponse) (iter' : HashMap String String → List (String × String)),
        r.ConvertedFrom w →
          Deploy.WorkloadResponse.fromJson (r.toJson iter') =
            .ok ⟨(sampleUuid 1).toString, "web", 1⟩ :=
  deploy_reports_created_workload webDeploy _ webDeploy_labels_enumerate _ _ _ (by decide)
    (by decide) rfl rfl

end YoukiRuntime
