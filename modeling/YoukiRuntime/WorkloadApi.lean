import YoukiRuntime.Registry

/-!
# The workload handlers of the REST API

`create_workload`, `update_workload` and `delete_workload` of the orchestrator's API each make
a short chain of `StateStore` calls and, for the first two, a `send` on the orchestrator's
channel, every step under `?`. An error returned by a later step does not undo an earlier
one: the store keeps what the earlier calls wrote.

The `StateStore` trait and `ApiError` are not among the sources. A store is modelled by its
content, the workloads and the instances by identifier, and each call by what its name says
it does, on success: `put_workload` inserts under the workload's id,
`delete_instances_for_workload` drops the instances of the workload, `delete_workload` drops
the workload. A call that fails changes nothing. Which calls fail, with what error, and
whether the channel's receiver is still alive, is the `Outcomes` of a request.

## Main results

* `createWorkload_store`, `updateWorkload_store`, `deleteWorkload_store`: the store after
  each handler, for every outcome.
* `workload_handlers_keep_writes`: exactly when each handler returns an error with the store
  changed.
* `updateWorkload_accepts_zero_replicas`: `update_workload` lacks the `replicas == 0` check
  of `create_workload`.
-/

namespace YoukiRuntime

/-- The error of a `StateStore` call, by its message. -/
structure StateError where
  message : String
  deriving DecidableEq

/-- `ApiError`, by the constructors the handlers call. -/
inductive ApiError
  /-- `ApiError::validation_error`. -/
  | validationError (message : String)
  /-- `ApiError::not_found(resource, id)`. -/
  | notFound (resource id : String)
  /-- `ApiError::internal_error`. -/
  | internalError (message : String)
  /-- `ApiError::from(StateError)`. -/
  | stateError (err : StateError)
  deriving DecidableEq

/-- `WorkloadDefinition`. -/
structure WorkloadDefinition where
  id : Uuid
  name : String
  containers : List ContainerConfig
  replicas : Nat
  labels : HashMap String String

/-- `WorkloadInstance`, by the fields the store calls read. -/
structure WorkloadInstance where
  id : Uuid
  workloadId : Uuid

/-- `CreateWorkloadRequest`. Its containers are given as the `ContainerConfig`s that
`From<ContainerConfigRequest>` makes of them, field by field. -/
structure CreateWorkloadRequest where
  name : String
  containers : List ContainerConfig
  replicas : Nat
  labels : HashMap String String

/-- `From<CreateWorkloadRequest> for WorkloadDefinition`, with `id` the `Uuid::new_v4()` it
draws. -/
def CreateWorkloadRequest.toWorkloadDefinition (request : CreateWorkloadRequest) (id : Uuid) :
    WorkloadDefinition :=
  ⟨id, request.name, request.containers, request.replicas, request.labels⟩

/-- The workload a request builds has the id it was given. -/
@[simp] theorem CreateWorkloadRequest.id_toWorkloadDefinition (request : CreateWorkloadRequest)
    (id : Uuid) : (request.toWorkloadDefinition id).id = id := rfl

/-- The content of a `StateStore`. -/
@[ext] structure StateStore where
  workloads : HashMap Uuid WorkloadDefinition
  instances : HashMap Uuid WorkloadInstance

namespace StateStore

/-- `put_workload`, when it succeeds. -/
def putWorkload (s : StateStore) (workload : WorkloadDefinition) : StateStore :=
  { s with workloads := s.workloads.insert workload.id workload }

/-- `delete_instances_for_workload`, when it succeeds. -/
def deleteInstancesForWorkload (s : StateStore) (workloadId : Uuid) : StateStore :=
  { s with instances := s.instances.retain fun _ i => i.workloadId != workloadId }

/-- `delete_workload`, when it succeeds. -/
def deleteWorkload (s : StateStore) (workloadId : Uuid) : StateStore :=
  { s with workloads := (s.workloads.remove workloadId).2 }

/-- A store with nothing in it. -/
def empty : StateStore := ⟨.empty, .empty⟩

/-- `put_workload` stores the workload under its own id and touches no other. -/
@[simp] theorem get_workloads_putWorkload (s : StateStore) (w : WorkloadDefinition) (k : Uuid) :
    (s.putWorkload w).workloads.get k = if k = w.id then some w else s.workloads.get k :=
  HashMap.get_insert _ _ _ _

/-- A `put_workload` changes the store unless the same workload is already stored. -/
theorem putWorkload_eq_self_iff (s : StateStore) (w : WorkloadDefinition) :
    s.putWorkload w = s ↔ s.workloads.get w.id = some w := by
  simp only [putWorkload, HashMap.insert, StateStore.ext_iff, HashMap.ext_iff, and_true]
  exact Function.update_eq_self_iff.trans eq_comm

/-- A `delete_instances_for_workload` changes the store when an instance of the workload is
stored. -/
theorem deleteInstancesForWorkload_eq_self_iff (s : StateStore) (workloadId : Uuid) :
    s.deleteInstancesForWorkload workloadId = s ↔
      ∀ k i, s.instances.get k = some i → i.workloadId ≠ workloadId := by
  simp only [deleteInstancesForWorkload, StateStore.ext_iff, HashMap.ext_iff, funext_iff,
    HashMap.get_retain, true_and]
  refine forall_congr' fun k => ?_
  cases s.instances.get k <;> simp [Option.filter]

end StateStore

/-- What the calls of one request do: each `StateStore` call fails with the given error or
succeeds, and `workload_tx.send` succeeds while the orchestrator's receiver is alive. -/
structure Outcomes where
  getWorkload : Option StateError
  putWorkload : Option StateError
  deleteInstancesForWorkload : Option StateError
  deleteWorkload : Option StateError
  channelOpen : Bool

/-! ### The handlers -/

/-- `create_workload`, with `newId` the `Uuid::new_v4()` of the conversion: the result, and
the store after it. -/
def createWorkload (o : Outcomes) (newId : Uuid) (request : CreateWorkloadRequest)
    (s : StateStore) : Except ApiError WorkloadDefinition × StateStore :=
  if request.name.isEmpty then
    (.error (.validationError "Workload name cannot be empty"), s)
  else if request.containers.isEmpty then
    (.error (.validationError "Workload must have at least one container"), s)
  else if request.replicas = 0 then
    (.error (.validationError "Replicas must be at least 1"), s)
  else
    let workload := request.toWorkloadDefinition newId
    match o.putWorkload with
    | some e => (.error (.stateError e), s)
    | none =>
      let s := s.putWorkload workload
      if o.channelOpen then (.ok workload, s)
      else (.error (.internalError "Failed to submit workload to orchestrator"), s)

/-- `update_workload`. -/
def updateWorkload (o : Outcomes) (workloadId : Uuid) (request : CreateWorkloadRequest)
    (s : StateStore) : Except ApiError WorkloadDefinition × StateStore :=
  match o.getWorkload with
  | some e => (.error (.stateError e), s)
  | none =>
    match s.workloads.get workloadId with
    | none => (.error (.notFound "Workload" workloadId.toString), s)
    | some _ =>
      if request.name.isEmpty then
        (.error (.validationError "Workload name cannot be empty"), s)
      else if request.containers.isEmpty then
        (.error (.validationError "Workload must have at least one container"), s)
      else
        let workload : WorkloadDefinition :=
          ⟨workloadId, request.name, request.containers, request.replicas, request.labels⟩
        match o.putWorkload with
        | some e => (.error (.stateError e), s)
        | none =>
          let s := s.putWorkload workload
          if o.channelOpen then (.ok workload, s)
          else (.error (.internalError "Failed to submit workload update to orchestrator"), s)

/-- `delete_workload`. -/
def deleteWorkload (o : Outcomes) (workloadId : Uuid) (s : StateStore) :
    Except ApiError Unit × StateStore :=
  match o.getWorkload with
  | some e => (.error (.stateError e), s)
  | none =>
    match s.workloads.get workloadId with
    | none => (.error (.notFound "Workload" workloadId.toString), s)
    | some _ =>
      match o.deleteInstancesForWorkload with
      | some e => (.error (.stateError e), s)
      | none =>
        let s := s.deleteInstancesForWorkload workloadId
        match o.deleteWorkload with
        | some e => (.error (.stateError e), s)
        | none => (.ok (), s.deleteWorkload workloadId)

/-! ### What each handler leaves in the store -/

section Handlers

variable (o : Outcomes) (request : CreateWorkloadRequest) (s : StateStore) (workloadId : Uuid)

/-- The store after `create_workload`: the new workload once `put_workload` has succeeded,
whatever the `send` after it does. -/
theorem createWorkload_store (newId : Uuid) :
    (createWorkload o newId request s).2 =
      if request.name.isEmpty = false ∧ request.containers.isEmpty = false ∧
          request.replicas ≠ 0 ∧ o.putWorkload = none
      then s.putWorkload (request.toWorkloadDefinition newId) else s := by
  unfold createWorkload
  split_ifs <;> (try split) <;> simp_all

/-- `create_workload` succeeds exactly when its checks pass and both of its calls do. -/
theorem createWorkload_isOk (newId : Uuid) :
    (createWorkload o newId request s).1.isOk = true ↔
      (request.name.isEmpty = false ∧ request.containers.isEmpty = false ∧
          request.replicas ≠ 0 ∧ o.putWorkload = none) ∧ o.channelOpen = true := by
  unfold createWorkload
  split_ifs <;> (try split) <;> simp_all [Except.isOk, Except.toBool]

/-- `create_workload` answers with the new workload, stored, when the request passes its
checks, `put_workload` succeeds and the orchestrator's receiver is alive. -/
theorem createWorkload_of_checks (newId : Uuid) (hname : request.name.isEmpty = false)
    (hcontainers : request.containers.isEmpty = false) (hreplicas : request.replicas ≠ 0)
    (hput : o.putWorkload = none) (hopen : o.channelOpen = true) :
    createWorkload o newId request s =
      let workload := request.toWorkloadDefinition newId
      (.ok workload, s.putWorkload workload) := by
  simp [createWorkload, hname, hcontainers, hreplicas, hput, hopen]

/-- The store after `update_workload`. -/
theorem updateWorkload_store :
    (updateWorkload o workloadId request s).2 =
      if o.getWorkload = none ∧ (s.workloads.get workloadId).isSome ∧
          request.name.isEmpty = false ∧ request.containers.isEmpty = false ∧
          o.putWorkload = none
      then s.putWorkload (request.toWorkloadDefinition workloadId) else s := by
  unfold updateWorkload
  repeat' split
  all_goals simp_all [CreateWorkloadRequest.toWorkloadDefinition]

/-- `update_workload` returns `Ok` exactly when every check and call succeeds and the watch
event is sent. -/
theorem updateWorkload_isOk :
    (updateWorkload o workloadId request s).1.isOk = true ↔
      (o.getWorkload = none ∧ (s.workloads.get workloadId).isSome ∧
          request.name.isEmpty = false ∧ request.containers.isEmpty = false ∧
          o.putWorkload = none) ∧ o.channelOpen = true := by
  unfold updateWorkload
  repeat' split
  all_goals simp_all [Except.isOk, Except.toBool]

/-- The store after `delete_workload`: without the workload's instances once
`delete_instances_for_workload` has succeeded, and without the workload too once
`delete_workload` has. -/
theorem deleteWorkload_store :
    (deleteWorkload o workloadId s).2 =
      if o.getWorkload = none ∧ (s.workloads.get workloadId).isSome ∧
          o.deleteInstancesForWorkload = none
      then
        if o.deleteWorkload = none
        then (s.deleteInstancesForWorkload workloadId).deleteWorkload workloadId
        else s.deleteInstancesForWorkload workloadId
      else s := by
  unfold deleteWorkload
  repeat' split
  all_goals simp_all

/-- `delete_workload` returns `Ok` exactly when the workload is there and both deletes
succeed. -/
theorem deleteWorkload_isOk :
    (deleteWorkload o workloadId s).1.isOk = true ↔
      (o.getWorkload = none ∧ (s.workloads.get workloadId).isSome ∧
          o.deleteInstancesForWorkload = none) ∧ o.deleteWorkload = none := by
  unfold deleteWorkload
  repeat' split
  all_goals simp_all [Except.isOk, Except.toBool]

/-- `create_workload` returns an error with the store changed exactly when its `send` fails
after a `put_workload` that stored a workload not already there. -/
theorem createWorkload_error_changes_iff (newId : Uuid) :
    (createWorkload o newId request s).1.isOk = false ∧
        (createWorkload o newId request s).2 ≠ s ↔
      request.name.isEmpty = false ∧ request.containers.isEmpty = false ∧
        request.replicas ≠ 0 ∧ o.putWorkload = none ∧ o.channelOpen = false ∧
        s.workloads.get newId ≠ some (request.toWorkloadDefinition newId) := by
  rw [← Bool.not_eq_true, createWorkload_isOk, createWorkload_store]
  split_ifs with h
  · simp [h, StateStore.putWorkload_eq_self_iff, CreateWorkloadRequest.toWorkloadDefinition]
  · exact iff_of_false (fun hc => hc.2 rfl) fun ⟨h1, h2, h3, h4, _⟩ => h ⟨h1, h2, h3, h4⟩

/-- `update_workload` returns an error with the store changed exactly when its `send` fails
after a `put_workload` that replaced the stored workload by a different one. -/
theorem updateWorkload_error_changes_iff :
    (updateWorkload o workloadId request s).1.isOk = false ∧
        (updateWorkload o workloadId request s).2 ≠ s ↔
      o.getWorkload = none ∧ (s.workloads.get workloadId).isSome ∧
        request.name.isEmpty = false ∧ request.containers.isEmpty = false ∧
        o.putWorkload = none ∧ o.channelOpen = false ∧
        s.workloads.get workloadId ≠ some (request.toWorkloadDefinition workloadId) := by
  rw [← Bool.not_eq_true, updateWorkload_isOk, updateWorkload_store]
  split_ifs with h
  · simp [h, StateStore.putWorkload_eq_self_iff, CreateWorkloadRequest.toWorkloadDefinition]
  · exact iff_of_false (fun hc => hc.2 rfl)
      fun ⟨h1, h2, h3, h4, h5, _⟩ => h ⟨h1, h2, h3, h4, h5⟩

/-- `delete_workload` returns an error with the store changed exactly when its
`delete_workload` call fails after a `delete_instances_for_workload` that dropped an
instance. -/
theorem deleteWorkload_error_changes_iff :
    (deleteWorkload o workloadId s).1.isOk = false ∧ (deleteWorkload o workloadId s).2 ≠ s ↔
      o.getWorkload = none ∧ (s.workloads.get workloadId).isSome ∧
        o.deleteInstancesForWorkload = none ∧ o.deleteWorkload.isSome ∧
        ∃ k i, s.instances.get k = some i ∧ i.workloadId = workloadId := by
  rw [← Bool.not_eq_true, deleteWorkload_isOk, deleteWorkload_store]
  split_ifs with h hdel
  · simp [h, hdel]
  · simp [h, hdel, Option.isSome_iff_ne_none, StateStore.deleteInstancesForWorkload_eq_self_iff]
  · exact iff_of_false (fun hc => hc.2 rfl) fun ⟨h1, h2, h3, _⟩ => h ⟨h1, h2, h3⟩

/-- **`update_workload` has no `replicas == 0` check**: with the workload stored, its checks
passed and its calls succeeding, it stores and returns a workload with no replicas, where
`create_workload` rejects the same request. -/
theorem updateWorkload_accepts_zero_replicas (newId : Uuid) (hget : o.getWorkload = none)
    (hstored : (s.workloads.get workloadId).isSome) (hname : request.name.isEmpty = false)
    (hcontainers : request.containers.isEmpty = false) (hput : o.putWorkload = none)
    (hsend : o.channelOpen = true) (hzero : request.replicas = 0) :
    (updateWorkload o workloadId request s).1 = .ok (request.toWorkloadDefinition workloadId) ∧
      ((updateWorkload o workloadId request s).2.workloads.get workloadId).map (·.replicas) =
        some 0 ∧
      createWorkload o newId request s =
        (.error (.validationError "Replicas must be at least 1"), s) := by
  obtain ⟨w, hw⟩ := Option.isSome_iff_exists.1 hstored
  refine ⟨?_, ?_, ?_⟩
  · simp [updateWorkload, hget, hw, hname, hcontainers, hput, hsend,
      CreateWorkloadRequest.toWorkloadDefinition]
  · simp [updateWorkload_store, hget, hstored, hname, hcontainers, hput, hzero,
      CreateWorkloadRequest.toWorkloadDefinition]
  · simp [createWorkload, hname, hcontainers, hzero]

end Handlers

/-- **The handlers keep what their first calls wrote**: for every store, every request and
every outcome of the calls, each handler returns an error with the store changed exactly in
the cases above. On an empty store, a `create_workload` whose `send` fails returns an error
and leaves its workload stored. -/
theorem workload_handlers_keep_writes (o : Outcomes) (request : CreateWorkloadRequest)
    (s : StateStore) (newId workloadId : Uuid) :
    let web : CreateWorkloadRequest := ⟨"web", [⟨"web", "nginx", ⟨1, 64⟩⟩], 1, .empty⟩
    ((createWorkload o newId request s).1.isOk = false ∧
        (createWorkload o newId request s).2 ≠ s ↔
      request.name.isEmpty = false ∧ request.containers.isEmpty = false ∧
        request.replicas ≠ 0 ∧ o.putWorkload = none ∧ o.channelOpen = false ∧
        s.workloads.get newId ≠ some (request.toWorkloadDefinition newId)) ∧
    ((updateWorkload o workloadId request s).1.isOk = false ∧
        (updateWorkload o workloadId request s).2 ≠ s ↔
      o.getWorkload = none ∧ (s.workloads.get workloadId).isSome ∧
        request.name.isEmpty = false ∧ request.containers.isEmpty = false ∧
        o.putWorkload = none ∧ o.channelOpen = false ∧
        s.workloads.get workloadId ≠ some (request.toWorkloadDefinition workloadId)) ∧
    ((deleteWorkload o workloadId s).1.isOk = false ∧ (deleteWorkload o workloadId s).2 ≠ s ↔
      o.getWorkload = none ∧ (s.workloads.get workloadId).isSome ∧
        o.deleteInstancesForWorkload = none ∧ o.deleteWorkload.isSome ∧
        ∃ k i, s.instances.get k = some i ∧ i.workloadId = workloadId) ∧
    (createWorkload ⟨none, none, none, none, false⟩ newId web .empty).1.isOk = false ∧
    (createWorkload ⟨none, none, none, none, false⟩ newId web .empty).2.workloads.get newId =
      some (web.toWorkloadDefinition newId) :=
  ⟨createWorkload_error_changes_iff o request s newId,
    updateWorkload_error_changes_iff o request s workloadId,
    deleteWorkload_error_changes_iff o s workloadId, rfl,
    by rw [createWorkload_store, if_pos ⟨rfl, rfl, by decide, rfl⟩]; simp⟩

end YoukiRuntime