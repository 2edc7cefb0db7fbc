import YoukiRuntime.Json
import YoukiRuntime.WorkloadApi

/-!
# The `deploy` command, and what the server reads of it

`orch deploy` builds a `CreateWorkloadRequest` from its arguments and posts it to
`/api/v1/workloads`, where `create_workload` receives it through axum's `Json` extractor as
the server's own `CreateWorkloadRequest`. The two request types are declared apart, in the
client's `deploy.rs` and the server's `handlers.rs`, and they do not agree on every name:
the client sends a container's environment as `env` and its resources as `resources`, in
millicores, where the server reads `env_vars` and `resource_requests`, in cores. Both server
fields are `#[serde(default)]`, so the server accepts the request, skips the two entries it
does not know, and takes the defaults: no environment and no resources.

`ApiClient` is not among the sources; `post` is taken to send its body as `serde_json`
renders it. Each `HashMap` of the request is written in the order its iteration takes,
given by `iter`.

## Main results

* `parseEnvVar_eq_ok`: `parse_env_var` accepts exactly `KEY=VALUE` with a key free of `=`.
* `Deploy.CreateWorkloadRequest.fromJson_toJson`: what the server reads of every request of
  the client's type.
* `deploy_stores_without_env_or_resources`: for every argument list, the name, image, port,
  replicas and labels arrive, the environment and resources do not; and the workload
  `create_workload` then stores.
-/

namespace YoukiRuntime

/-! ### `parse_env_var` -/

/-- `str::splitn(2, sep)`: the text before the first `sep`, then the rest after it. -/
def splitnTwo (sep : Char) (s : List Char) : List (List Char) :=
  match s.span (· != sep) with
  | (before, _ :: after) => [before, after]
  | (before, []) => [before]

/-- `parse_env_var`, the value parser of `--env` and `--label`: the two parts of
`splitn(2, '=')`, or the error when there are not two. -/
def parseEnvVar (s : String) : Except String (String × String) :=
  match splitnTwo '=' s.data with
  | [key, value] => .ok (⟨key⟩, ⟨value⟩)
  | _ => .error ("Invalid format '" ++ s ++ "', expected KEY=VALUE")

/-- `splitn(2, sep)` always gives at least one part. -/
theorem splitnTwo_ne_nil (sep : Char) (s : List Char) : splitnTwo sep s ≠ [] := by
  unfold splitnTwo
  split <;> simp

/-- `splitn(2, sep)` of a character followed by text: two parts at a leading `sep`, else the
character joins the first part. -/
theorem splitnTwo_cons (sep c : Char) (cs : List Char) :
    splitnTwo sep (c :: cs) =
      if c = sep then [[], cs] else (splitnTwo sep cs).modifyHead (c :: ·) := by
  by_cases hc : c = sep
  · simp [splitnTwo, List.span_eq_take_drop, hc]
  · simp only [splitnTwo, List.span_eq_take_drop, List.takeWhile_cons, List.dropWhile_cons,
      bne_iff_ne, ne_eq, hc, not_false_eq_true, ↓reduceIte]
    cases cs.dropWhile (· != sep) <;> rfl

/-- `splitn(2, sep)` gives two parts exactly at the first `sep`. -/
theorem splitnTwo_eq_pair {sep : Char} {s key value : List Char} :
    splitnTwo sep s = [key, value] ↔ s = key ++ sep :: value ∧ sep ∉ key := by
  induction s generalizing key with
  | nil => simp [splitnTwo]
  | cons c cs ih =>
    rw [splitnTwo_cons]
    by_cases hc : c = sep
    · subst hc
      rw [if_pos rfl]
      cases key with
      | nil => simp [eq_comm]
      | cons k key => simp only [List.cons.injEq, List.cons_append, List.mem_cons]; tauto
    · rw [if_neg hc]
      cases key with
      | nil => cases splitnTwo sep cs <;> simp [hc]
      | cons k key =>
        cases h : splitnTwo sep cs with
        | nil => exact absurd h (splitnTwo_ne_nil sep cs)
        | cons x rest =>
          simp only [h, List.cons.injEq] at ih
          simp only [List.modifyHead, List.cons.injEq, List.cons_append, List.mem_cons]
          rw [and_assoc, ih]
          by_cases hck : c = k
          · subst hck; simp [Ne.symm hc]
          · simp [hck]

/-- **`parse_env_var` reads `KEY=VALUE`**: it accepts a text exactly when it is a key free of
`=`, then `=`, then any value, `=` included, and returns that key and value. -/
theorem parseEnvVar_eq_ok {s key value : String} :
    parseEnvVar s = .ok (key, value) ↔ s = key ++ "=" ++ value ∧ '=' ∉ key.data := by
  have hdata : s = key ++ "=" ++ value ↔ s.data = key.data ++ '=' :: value.data := by
    rw [String.ext_iff]; simp
  rw [hdata, ← splitnTwo_eq_pair, parseEnvVar]
  rcases splitnTwo '=' s.data with _ | ⟨k, _ | ⟨v, _ | ⟨w, rest⟩⟩⟩ <;> simp [String.ext_iff]

/-! ### The request `orch deploy` sends -/

/-- `HashMap::new()` followed by `insert` of each pair in turn. -/
def HashMap.insertAll (pairs : List (String × String)) : HashMap String String :=
  pairs.foldl (fun m e => m.insert e.1 e.2) .empty

/-- `DeployArgs`, with `--env` and `--label` already read by `parse_env_var`. -/
structure DeployArgs where
  name : String
  image : String
  replicas : UInt32
  port : Option UInt16
  cpu : UInt64
  memory : UInt64
  env : List (String × String)
  label : List (String × String)

namespace Deploy

/-- `PortRequest` of `deploy.rs`. -/
structure PortRequest where
  containerPort : UInt16
  protocol : String

/-- `ResourceRequest` of `deploy.rs`. -/
structure ResourceRequest where
  cpuMillicores : UInt64
  memoryMb : UInt64

/-- `ContainerRequest` of `deploy.rs`. -/
structure ContainerRequest where
  name : String
  image : String
  ports : List PortRequest
  env : HashMap String String
  resources : ResourceRequest

/-- `CreateWorkloadRequest` of `deploy.rs`. -/
structure CreateWorkloadRequest where
  name : String
  replicas : UInt32
  labels : HashMap String String
  containers : List ContainerRequest

/-- The derived `Serialize` of `PortRequest`. -/
def PortRequest.toJson (p : PortRequest) : Json :=
  .obj [("container_port", .num p.containerPort.toNat), ("protocol", .str p.protocol)]

/-- The derived `Serialize` of `ResourceRequest`. -/
def ResourceRequest.toJson (r : ResourceRequest) : Json :=
  .obj [("cpu_millicores", .num r.cpuMillicores.toNat), ("memory_mb", .num r.memoryMb.toNat)]

/-- The derived `Serialize` of `ContainerRequest`, with `iter` the iteration of each map. -/
def ContainerRequest.toJson (iter : HashMap String String → List (String × String))
    (c : ContainerRequest) : Json :=
  .obj [("name", .str c.name), ("image", .str c.image),
    ("ports", .arr (c.ports.map PortRequest.toJson)), ("env", .ofStringMap (iter c.env)),
    ("resources", c.resources.toJson)]

/-- The derived `Serialize` of `CreateWorkloadRequest`, the body `client.post` sends. -/
def CreateWorkloadRequest.toJson (iter : HashMap String String → List (String × String))
    (r : CreateWorkloadRequest) : Json :=
  .obj [("name", .str r.name), ("replicas", .num r.replicas.toNat),
    ("labels", .ofStringMap (iter r.labels)),
    ("containers", .arr (r.containers.map (ContainerRequest.toJson iter)))]

/-- `WorkloadResponse` of `deploy.rs`: what `execute` reads of the answer to its request. -/
structure WorkloadResponse where
  id : String
  name : String
  replicas : Nat
  deriving DecidableEq

open Json in
/-- The derived `Deserialize` of `WorkloadResponse`. -/
def WorkloadResponse.fromJson (j : Json) : Except DecodeError WorkloadResponse := do
  let e ← objectEntries "struct WorkloadResponse" j
  let id ← required decodeString e "id"
  let name ← required decodeString e "name"
  let replicas ← required (decodeUnsigned "u32" UInt32.size) e "replicas"
  pure ⟨id, name, replicas⟩

end Deploy

/-- The request `deploy::execute` builds: one container, named as the workload. -/
def DeployArgs.request (args : DeployArgs) : Deploy.CreateWorkloadRequest where
  name := args.name
  replicas := args.replicas
  labels := HashMap.insertAll args.label
  containers :=
    [{ name := args.name
       image := args.image
       ports := args.port.toList.map fun port => ⟨port, "TCP"⟩
       env := HashMap.insertAll args.env
       resources := ⟨args.cpu, args.memory⟩ }]

/-! ### What the server reads -/

namespace Api

open Json

/-- `PortMappingRequest`. -/
structure PortMappingRequest where
  containerPort : Nat
  hostPort : Option Nat
  protocol : String

/-- `ResourceRequestsRequest`; `cpu_cores` is an `f32`. -/
structure ResourceRequestsRequest where
  cpuCores : Float
  memoryMb : Nat
  diskMb : Nat

/-- The derived `Default` of `ResourceRequestsRequest`. -/
def ResourceRequestsRequest.default : ResourceRequestsRequest := ⟨0.0, 0, 0⟩

/-- `ContainerConfigRequest`. -/
structure ContainerConfigRequest where
  name : String
  image : String
  command : Option (List String)
  args : Option (List String)
  envVars : HashMap String String
  ports : List PortMappingRequest
  resourceRequests : ResourceRequestsRequest

/-- `CreateWorkloadRequest` as the `Json` extractor reads it, before `create_workload`
converts its containers. -/
structure CreateWorkloadRequest where
  name : String
  containers : List ContainerConfigRequest
  replicas : Nat
  labels : HashMap String String

/-- `default_protocol`. -/
def defaultProtocol : String := "tcp"

/-- `u16`. -/
def decodeU16 : Decoder Nat := decodeUnsigned "u16" UInt16.size

/-- `u32`. -/
def decodeU32 : Decoder Nat := decodeUnsigned "u32" UInt32.size

/-- `u64`. -/
def decodeU64 : Decoder Nat := decodeUnsigned "u64" UInt64.size

/-- The derived `Deserialize` of `PortMappingRequest`: `host_port` is an `Option`, and
`protocol` defaults to `default_protocol()`. -/
def PortMappingRequest.fromJson (j : Json) : Except DecodeError PortMappingRequest := do
  let e ← objectEntries "struct PortMappingRequest" j
  let containerPort ← required decodeU16 e "container_port"
  let hostPort ← withDefault (decodeOption decodeU16) none e "host_port"
  let protocol ← withDefault decodeString defaultProtocol e "protocol"
  pure ⟨containerPort, hostPort, protocol⟩

/-- The derived `Deserialize` of `ResourceRequestsRequest`: every field defaults. -/
def ResourceRequestsRequest.fromJson (j : Json) :
    Except DecodeError ResourceRequestsRequest := do
  let e ← objectEntries "struct ResourceRequestsRequest" j
  let cpuCores ← withDefault decodeF32 0.0 e "cpu_cores"
  let memoryMb ← withDefault decodeU64 0 e "memory_mb"
  let diskMb ← withDefault decodeU64 0 e "disk_mb"
  pure ⟨cpuCores, memoryMb, diskMb⟩

/-- The derived `Deserialize` of `ContainerConfigRequest`: all but `name` and `image`
default. -/
def ContainerConfigRequest.fromJson (j : Json) : Except DecodeError ContainerConfigRequest := do
  let e ← objectEntries "struct ContainerConfigRequest" j
  let name ← required decodeString e "name"
  let image ← required decodeString e "image"
  let command ← withDefault (decodeOption (decodeVec decodeString)) none e "command"
  let args ← withDefault (decodeOption (decodeVec decodeString)) none e "args"
  let envVars ← withDefault decodeStringMap .empty e "env_vars"
  let ports ← withDefault (decodeVec PortMappingRequest.fromJson) [] e "ports"
  let resourceRequests ← withDefault ResourceRequestsRequest.fromJson
    ResourceRequestsRequest.default e "resource_requests"
  pure ⟨name, image, command, args, envVars, ports, resourceRequests⟩

/-- The derived `Deserialize` of `CreateWorkloadRequest`: `labels` defaults. -/
def CreateWorkloadRequest.fromJson (j : Json) : Except DecodeError CreateWorkloadRequest := do
  let e ← objectEntries "struct CreateWorkloadRequest" j
  let name ← required decodeString e "name"
  let containers ← required (decodeVec ContainerConfigRequest.fromJson) e "containers"
  let replicas ← required decodeU32 e "replicas"
  let labels ← withDefault decodeStringMap .empty e "labels"
  pure ⟨name, containers, replicas, labels⟩

/-- `From<ResourceRequestsRequest> for NodeResources`, on the fields `ResourceRequests`
keeps. -/
def ResourceRequestsRequest.toResourceRequests (r : ResourceRequestsRequest) :
    ResourceRequests :=
  ⟨r.cpuCores, r.memoryMb⟩

/-- `From<ContainerConfigRequest> for ContainerConfig`, on the fields `ContainerConfig`
keeps. -/
def ContainerConfigRequest.toContainerConfig (c : ContainerConfigRequest) : ContainerConfig :=
  ⟨c.name, c.image, c.resourceRequests.toResourceRequests⟩

/-- The request with its containers converted, as `create_workload` uses it. -/
def CreateWorkloadRequest.toRequest (r : CreateWorkloadRequest) :
    YoukiRuntime.CreateWorkloadRequest :=
  ⟨r.name, r.containers.map ContainerConfigRequest.toContainerConfig, r.replicas, r.labels⟩

end Api

/-! ### The server's reading of the client's request -/

namespace Deploy

/-- The server reads a port as it was sent, with no host port. -/
theorem PortRequest.fromJson_toJson (p : PortRequest) :
    Api.PortMappingRequest.fromJson p.toJson = pure ⟨p.containerPort.toNat, none, p.protocol⟩ := by
  simp only [Api.PortMappingRequest.fromJson, PortRequest.toJson, Json.objectEntries_obj,
    pure_bind, Json.required, Json.withDefault, Json.decodeField, List.filter, String.reduceBEq,
    Api.decodeU16, Json.decodeUnsigned_num (UInt16.toNat_lt_size _), Json.decodeString_str]

/-- The server reads a container without its `env` and `resources`, which it does not know:
whatever they hold, it takes no environment and the default resources. -/
theorem ContainerRequest.fromJson_toJson (iter : HashMap String String → List (String × String))
    (c : ContainerRequest) :
    Api.ContainerConfigRequest.fromJson (c.toJson iter) =
      pure ⟨c.name, c.image, none, none, .empty,
        c.ports.map fun p => ⟨p.containerPort.toNat, none, p.protocol⟩,
        Api.ResourceRequestsRequest.default⟩ := by
  have hports := Json.decodeVec_map Api.PortMappingRequest.fromJson PortRequest.toJson _ c.ports
    fun p _ => p.fromJson_toJson
  simp only [Api.ContainerConfigRequest.fromJson, ContainerRequest.toJson, Json.objectEntries_obj,
    pure_bind, Json.required, Json.withDefault, Json.decodeField, List.filter, String.reduceBEq,
    Json.decodeString_str, hports]

/-- The server reads every request of the client's type with its name, replicas, labels
and containers, each container as `ContainerRequest.fromJson_toJson` says. -/
theorem CreateWorkloadRequest.fromJson_toJson
    (iter : HashMap String String → List (String × String)) (r : CreateWorkloadRequest)
    (hlabels : r.labels.Enumerates (iter r.labels)) :
    Api.CreateWorkloadRequest.fromJson (r.toJson iter) =
      pure ⟨r.name, r.containers.map fun c => ⟨c.name, c.image, none, none, .empty,
          c.ports.map fun p => ⟨p.containerPort.toNat, none, p.protocol⟩,
          Api.ResourceRequestsRequest.default⟩,
        r.replicas.toNat, r.labels⟩ := by
  have hcontainers := Json.decodeVec_map Api.ContainerConfigRequest.fromJson
    (ContainerRequest.toJson iter) _ r.containers fun c _ => c.fromJson_toJson iter
  simp only [Api.CreateWorkloadRequest.fromJson, CreateWorkloadRequest.toJson,
    Json.objectEntries_obj, pure_bind, Json.required, Json.withDefault, Json.decodeField,
    List.filter, String.reduceBEq, Json.decodeString_str, hcontainers, Api.decodeU32,
    Json.decodeUnsigned_num (UInt32.toNat_lt_size _), Json.decodeStringMap_of_enumerates hlabels]

end Deploy

/-- **`orch deploy` never delivers `--env`, `--cpu` or `--memory`.** For every argument
list, and whatever order its label map is written in, the server reads the request with
the name, image, port, replicas and labels given, but with no environment and the default,
zero, resources; `create_workload` then stores, if it stores anything, a workload whose one
container has no resource requests. -/
theorem deploy_stores_without_env_or_resources (args : DeployArgs)
    (iter : HashMap String String → List (String × String))
    (hlabels : (HashMap.insertAll args.label).Enumerates (iter (HashMap.insertAll args.label)))
    (o : Outcomes) (newId : Uuid) (s : StateStore) :
    Api.CreateWorkloadRequest.fromJson (args.request.toJson iter) =
        .ok { name := args.name
              containers :=
                [{ name := args.name, image := args.image, command := none, args := none,
                   envVars := .empty,
                   ports := args.port.toList.map fun port => ⟨port.toNat, none, "TCP"⟩,
                   resourceRequests := Api.ResourceRequestsRequest.default }]
              replicas := args.replicas.toNat
              labels := HashMap.insertAll args.label } ∧
      ∀ request, Api.CreateWorkloadRequest.fromJson (args.request.toJson iter) = .ok request →
        (createWorkload o newId request.toRequest s).2 =
          if args.name.isEmpty = false ∧ 0 < args.replicas.toNat ∧ o.putWorkload = none then
            s.putWorkload ⟨newId, args.name, [⟨args.name, args.image, ⟨0.0, 0⟩⟩],
              args.replicas.toNat, HashMap.insertAll args.label⟩
          else s := by
  have hread := Deploy.CreateWorkloadRequest.fromJson_toJson iter args.request hlabels
  refine ⟨by simpa [DeployArgs.request] using hread, fun request h => ?_⟩
  rw [hread] at h
  cases h
  rw [createWorkload_store]
  simp [DeployArgs.request, Api.CreateWorkloadRequest.toRequest,
    Api.ContainerConfigRequest.toContainerConfig, Api.ResourceRequestsRequest.toResourceRequests,
    Api.ResourceRequestsRequest.default, CreateWorkloadRequest.toWorkloadDefinition,
    Nat.pos_iff_ne_zero]

/-- `orch deploy --name web --image nginx --port 80 --memory 512 --env MODE=prod
--label tier=web`. -/
def webDeploy : DeployArgs :=
  ⟨"web", "nginx", 1, some 80, 100, 512, [("MODE", "prod")], [("tier", "web")]⟩

/-- The labels of `webDeploy` build a map that `[(tier, web)]` enumerates. -/
theorem webDeploy_labels_enumerate :
    (HashMap.insertAll webDeploy.label).Enumerates [("tier", "web")] := by
  refine ⟨List.nodup_cons.2 ⟨List.not_mem_nil _, List.nodup_nil⟩, fun k => ?_⟩
  by_cases hk : k = "tier"
  · simp [hk, webDeploy, HashMap.insertAll]
  · simp [hk, webDeploy, HashMap.insertAll, List.lookup_cons, beq_eq_false_iff_ne.2 hk]

/-- Deploying `web` with `--memory 512` stores a container whose memory request is zero. -/
theorem webDeploy_stored_without_memory :
    (HashMap.insertAll webDeploy.label).Enumerates [("tier", "web")] ∧
      ∀ request, Api.CreateWorkloadRequest.fromJson
          (webDeploy.request.toJson fun _ => [("tier", "web")]) = .ok request →
        (createWorkload ⟨none, none, none, none, true⟩ (sampleUuid 1) request.toRequest
          .empty).2 =
          StateStore.empty.putWorkload ⟨sampleUuid 1, "web", [⟨"web", "nginx", ⟨0.0, 0⟩⟩], 1,
            HashMap.insertAll [("tier", "web")]⟩ := by
  refine ⟨webDeploy_labels_enumerate, fun request h => ?_⟩
  rw [(deploy_stores_without_env_or_resources webDeploy _ webDeploy_labels_enumerate
    ⟨none, none, none, none, true⟩ (sampleUuid 1) .empty).2 request h, if_pos ⟨rfl, by decide, rfl⟩]
  rfl

end YoukiRuntime
