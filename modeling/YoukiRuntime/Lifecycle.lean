import YoukiRuntime.Registry
import YoukiRuntime.Youki

/-!
# The lifecycle operations

The six `ContainerRuntime` operations of `YoukiCliRuntime`, each as a function of the
registry and of what the outside world answers during the call. A call that only reads
the registry returns its result; a call that may write it also returns the new registry.

The answers are given per call: `CreateEnv` holds the outcome of every external step of
`create_container`, `StopEnv` the answers and durations of the youki commands of
`stop_container` and how much each sleep overran its 100 ms. External steps whose outcome
the source discards (`remove_dir_all(..).ok()` on a stale rootfs, `cleanup_bundle(..).ok()`,
the result of both kills) have no answer here; their effects on the lock discipline are
modelled in `YoukiRuntime.Tasks`.

The wait of `stop_container` is `pollState`, a loop with an explicit clock. It is defined
by well-founded recursion on the time left before the deadline: every round that does not
end the loop sleeps at least 100 ms, so the loop always ends, with no fuel.
-/

namespace YoukiRuntime

/-! ### `init_node` -/

/-- `init_node`; `mkdir` is how `create_dir_all` of `bundle_root/<node_id>` ends. -/
def initNode (r : Registry) (nodeId : NodeId) (mkdir : Except String Unit) :
    Result Unit × Registry :=
  match mkdir with
  | .error e => (.error (.runtimeError ("Failed to create bundle dir: " ++ e)), r)
  | .ok () => (.ok (), r.ensureNode nodeId)

/-! ### `create_container` -/

/-- What the filesystem, the image manager, the bundle builder and youki answer during one
`create_container`, in the order the source asks. -/
structure CreateEnv where
  createBundleDir : Except String Unit
  getRootfs : Except String String
  symlink : Except String Unit
  build : OciBundleBuilder → Except String Unit
  youkiCreate : ExecOutcome
  youkiStart : ExecOutcome

/-- The external steps of `create_container`, up to and including `youki start`. -/
def prepareContainer (containerId bundlePath : String) (config : ContainerConfig)
    (env : CreateEnv) : Result Unit := do
  env.createBundleDir.mapError fun e => .runtimeError ("Failed to create bundle: " ++ e)
  let _rootfsSource ← env.getRootfs.mapError fun e =>
    .runtimeError ("Failed to pull image: " ++ e)
  env.symlink.mapError fun e => .runtimeError ("Failed to link rootfs: " ++ e)
  (env.build (bundleBuilder bundlePath config)).mapError fun e =>
    .runtimeError ("Failed to build bundle: " ++ e)
  (youkiCreate containerId bundlePath env.youkiCreate).mapError fun e =>
    .runtimeError ("youki create failed: " ++ e.toString)
  (youkiStart containerId env.youkiStart).mapError fun e =>
    .runtimeError ("youki start failed: " ++ e.toString)

/-- The entry `create_container` records for a started container. -/
def startedState (containerId : ContainerId) (nodeId : NodeId) (bundlePath : String) :
    ContainerState :=
  { id := containerId, nodeId := nodeId, bundlePath := bundlePath, status := "running",
    pid := none }

/-- `create_container`; `uuid` is what `Uuid::new_v4()` returned. -/
def createContainer (cfg : YoukiCliConfig) (r : Registry) (config : ContainerConfig)
    (options : CreateContainerOptions) (uuid : Uuid) (env : CreateEnv) :
    Result ContainerId × Registry :=
  let containerId := formatContainerId config.name uuid
  let bundlePath := cfg.bundlePath options.nodeId containerId
  match prepareContainer containerId bundlePath config env with
  | .error e => (.error e, r)
  | .ok () =>
    (.ok containerId, (r.insertContainer containerId (startedState containerId options.nodeId
      bundlePath)).pushToNode options.nodeId containerId)

/-! ### `stop_container` -/

/-- What youki and the clock answer during one `stop_container`. `state i` answers the
`i`-th `youki state`; every youki command takes the stated time; the `i`-th sleep lasts
`100 ms + sleepExtra i`. -/
structure StopEnv where
  sigtermTime : Nat
  state : Nat → ExecOutcome
  stateTime : Nat → Nat
  sleepExtra : Nat → Nat
  sigkillTime : Nat

/-- What `stop_container` does while it waits, in order. -/
inductive StopStep
  | kill (signal : String)
  | state (answer : Except YoukiCliError YoukiState) (clock : Nat)
  | sleep

/-- How the polling loop of `stop_container` ends. -/
inductive LoopExit
  | stopped
  | killed
  | gone
  | failed (err : YoukiCliError)

/-- The end of the wait: how the loop ended, what it did, and the clock when it ended. -/
structure PollResult where
  exit : LoopExit
  log : List StopStep
  clock : Nat

/-- `Duration::from_millis(100)`. -/
def pollInterval : Nat := 100 * 1000000

/-- The polling loop of `stop_container`, from its `i`-th round at time `now`: query
`youki state`; leave on `stopped` or not-found; at or after the deadline send `SIGKILL`
and leave; otherwise sleep and go round again. -/
def pollState (decode : String → Except String YoukiState) (id : ContainerId)
    (deadline : Nat) (env : StopEnv) (i now : Nat) : PollResult :=
  let answered := now + env.stateTime i
  let answer := youkiState decode id (env.state i)
  match answer with
  | .ok st =>
    if st.status = "stopped" then ⟨.stopped, [.state answer answered], answered⟩
    else if deadline ≤ answered then
      ⟨.killed, [.state answer answered, .kill "SIGKILL"], answered + env.sigkillTime⟩
    else
      let rest := pollState decode id deadline env (i + 1)
        (answered + pollInterval + env.sleepExtra i)
      ⟨rest.exit, .state answer answered :: .sleep :: rest.log, rest.clock⟩
  | .error (.containerNotFound _) => ⟨.gone, [.state answer answered], answered⟩
  | .error e => ⟨.failed e, [.state answer answered], answered⟩
termination_by deadline - now
decreasing_by simp only [pollInterval]; omega

/-- `stop_container` up to the registry update, called at `calledAt`: `SIGTERM`, the
deadline, and the wait. -/
def stopAndWait (cfg : YoukiCliConfig) (decode : String → Except String YoukiState)
    (id : ContainerId) (env : StopEnv) (calledAt : Nat) : PollResult :=
  let start := calledAt + env.sigtermTime
  let poll := pollState decode id (start + cfg.stopTimeout) env 0 start
  { poll with log := .kill "SIGTERM" :: poll.log }

/-- `stop_container`. -/
def stopContainer (cfg : YoukiCliConfig) (decode : String → Except String YoukiState)
    (r : Registry) (id : ContainerId) (env : StopEnv) (calledAt : Nat) :
    Result Unit × Registry :=
  match (stopAndWait cfg decode id env calledAt).exit with
  | .failed e => (.error (.runtimeError e.toString), r)
  | _ => (.ok (), r.markStopped id)

/-! ### `remove_container` -/

/-- `remove_container`; `delete` is how `youki delete --force` ends. -/
def removeContainer (r : Registry) (id : ContainerId) (delete : ExecOutcome) :
    Result Unit × Registry :=
  match youkiDelete id true delete with
  | .error e => (.error (.runtimeError e.toString), r)
  | .ok () => (.ok (), r.forget id)

/-! ### Status queries -/

/-- `get_container_status`; `state` is how `youki state` ends. -/
def getContainerStatus (decode : String → Except String YoukiState) (r : Registry)
    (id : ContainerId) (state : ExecOutcome) : Result ContainerStatus :=
  match youkiState decode id state with
  | .ok st => .ok ⟨id, st.status, none, none⟩
  | .error (.containerNotFound _) =>
    match r.containers.get id with
    | some st => .ok ⟨id, st.status, none, none⟩
    | none => .error (.runtimeError ("Container not found: " ++ id))
  | .error e => .ok ⟨id, "unknown", none, some e.toString⟩

/-- The record `list_containers` pushes for one identifier: the status, or an `unknown`
record carrying the error's `Display` (`render`, from `orchestrator_shared_types`). -/
def statusRecord (decode : String → Except String YoukiState)
    (render : OrchestrationError → String) (r : Registry) (id : ContainerId)
    (state : ExecOutcome) : ContainerStatus :=
  match getContainerStatus decode r id state with
  | .ok status => status
  | .error e => ⟨id, "unknown", none, some (render e)⟩

/-- `list_containers`; `answer i` is how the `i`-th status query's `youki state` ends. -/
def listContainers (decode : String → Except String YoukiState)
    (render : OrchestrationError → String) (r : Registry) (nodeId : NodeId)
    (answer : Nat → ExecOutcome) : Result (List ContainerStatus) :=
  .ok ((r.listed nodeId).enum.map fun (i, id) => statusRecord decode render r id (answer i))

/-! ### Status records -/

/-- Every status `get_container_status` reports is about the identifier it was asked. -/
theorem getContainerStatus_id {decode : String → Except String YoukiState} {r : Registry}
    {id : ContainerId} {state : ExecOutcome} {status : ContainerStatus}
    (h : getContainerStatus decode r id state = .ok status) : status.id = id := by
  simp only [getContainerStatus] at h
  split at h
  · cases h; rfl
  · split at h <;> cases h; rfl
  · cases h; rfl

/-- A status record is for the identifier it was made for, whatever the answer. -/
@[simp] theorem statusRecord_id (decode : String → Except String YoukiState)
    (render : OrchestrationError → String) (r : Registry) (id : ContainerId)
    (state : ExecOutcome) : (statusRecord decode render r id state).id = id := by
  unfold statusRecord
  split
  · exact getContainerStatus_id ‹_›
  · rfl

/-- A status query that fails with anything but not-found yields an `unknown` record
carrying the error. -/
theorem statusRecord_of_error {decode : String → Except String YoukiState}
    (render : OrchestrationError → String) (r : Registry) {id : ContainerId}
    {state : ExecOutcome} {e : YoukiCliError} (he : youkiState decode id state = .error e)
    (hnf : ∀ x, e ≠ .containerNotFound x) :
    statusRecord decode render r id state = ⟨id, "unknown", none, some e.toString⟩ := by
  cases e <;> simp_all [statusRecord, getContainerStatus]

/-- A not-found answer for an identifier the registry does not hold yields an `unknown`
record carrying the `Container not found` error. -/
theorem statusRecord_of_notFound {decode : String → Except String YoukiState}
    (render : OrchestrationError → String) {r : Registry} {id x : ContainerId}
    {state : ExecOutcome} (he : youkiState decode id state = .error (.containerNotFound x))
    (hnone : r.containers.get id = none) :
    statusRecord decode render r id state =
      ⟨id, "unknown", none, some (render (.runtimeError ("Container not found: " ++ id)))⟩ := by
  simp [statusRecord, getContainerStatus, he, hnone]

/-! ### What each operation does to the registry -/

section

variable (cfg : YoukiCliConfig) (decode : String → Except String YoukiState)

/-- `init_node` returns `Ok` with the node's list created, or `Err` with the registry
unchanged. -/
theorem initNode_eq (r : Registry) (nodeId : NodeId) (mkdir : Except String Unit) :
    initNode r nodeId mkdir = (.ok (), r.ensureNode nodeId) ∨
      ∃ e, initNode r nodeId mkdir = (.error e, r) := by
  cases mkdir <;> simp [initNode]

/-- `create_container` returns `Ok(id)` with the entry inserted and listed, or `Err` with
the registry unchanged. -/
theorem createContainer_eq (r : Registry) (config : ContainerConfig)
    (options : CreateContainerOptions) (uuid : Uuid) (env : CreateEnv) :
    let id := formatContainerId config.name uuid
    createContainer cfg r config options uuid env =
        (.ok id, (r.insertContainer id (startedState id options.nodeId
          (cfg.bundlePath options.nodeId id))).pushToNode options.nodeId id) ∨
      ∃ e, createContainer cfg r config options uuid env = (.error e, r) := by
  simp only [createContainer]
  split <;> simp

/-- `stop_container` returns `Ok` with the entry marked stopped, or `Err` with the registry
unchanged. -/
theorem stopContainer_eq (r : Registry) (id : ContainerId) (env : StopEnv) (calledAt : Nat) :
    stopContainer cfg decode r id env calledAt = (.ok (), r.markStopped id) ∨
      ∃ e, stopContainer cfg decode r id env calledAt = (.error e, r) := by
  simp only [stopContainer]
  split <;> simp

/-- `remove_container` returns `Ok` with the identifier forgotten, or `Err` with the
registry unchanged. -/
theorem removeContainer_eq (r : Registry) (id : ContainerId) (delete : ExecOutcome) :
    removeContainer r id delete = (.ok (), r.forget id) ∨
      ∃ e, removeContainer r id delete = (.error e, r) := by
  simp only [removeContainer]
  split <;> simp

/-- **A failed call leaves the registry as it was**: when `init_node`, `create_container`,
`stop_container` or `remove_container` returns `Err`, both maps are unchanged, whichever
step failed and whatever the registry held. -/
theorem failed_call_keeps_registry :
    (∀ r nodeId mkdir e r', initNode r nodeId mkdir = (.error e, r') → r' = r) ∧
    (∀ r config options uuid env e r',
      createContainer cfg r config options uuid env = (.error e, r') → r' = r) ∧
    (∀ r id env calledAt e r',
      stopContainer cfg decode r id env calledAt = (.error e, r') → r' = r) ∧
    (∀ r id delete e r', removeContainer r id delete = (.error e, r') → r' = r) := by
  refine ⟨fun r n mk e r' h => ?_, fun r c o u env e r' h => ?_, fun r id env t e r' h => ?_,
    fun r id d e r' h => ?_⟩
  · rcases initNode_eq r n mk with h' | ⟨e', h'⟩ <;> rw [h'] at h <;> simp_all
  · rcases createContainer_eq cfg r c o u env with h' | ⟨e', h'⟩ <;> rw [h'] at h <;> simp_all
  · rcases stopContainer_eq cfg decode r id env t with h' | ⟨e', h'⟩ <;> rw [h'] at h <;>
      simp_all
  · rcases removeContainer_eq r id d with h' | ⟨e', h'⟩ <;> rw [h'] at h <;> simp_all

/-! ### Tearing down a container youki no longer knows -/

/-- A state query answered with not-found ends the wait as gone. -/
theorem pollState_of_reportsGone {id : ContainerId} {env : StopEnv} {i : Nat}
    (h : ReportsGone (env.state i)) (deadline now : Nat) :
    (pollState decode id deadline env i now).exit = .gone := by
  rw [pollState]
  simp only [youkiState_of_reportsGone decode h]

/-- A stop whose first state query is answered with not-found returns `Ok` and marks the
entry stopped. -/
theorem stopContainer_of_reportsGone (r : Registry) (id : ContainerId) {env : StopEnv}
    (h : ReportsGone (env.state 0)) (calledAt : Nat) :
    stopContainer cfg decode r id env calledAt = (.ok (), r.markStopped id) := by
  simp only [stopContainer, stopAndWait, pollState_of_reportsGone decode h]

/-- A remove whose delete is answered with not-found returns `Ok` and forgets the
identifier. -/
theorem removeContainer_of_reportsGone (r : Registry) (id : ContainerId) {delete : ExecOutcome}
    (h : ReportsGone delete) : removeContainer r id delete = (.ok (), r.forget id) := by
  simp only [removeContainer, youkiDelete_of_reportsGone h]

/-- **Stop and remove are idempotent against a runtime that reports the container gone**:
both return `Ok` from every registry, and repeating a call that returned `Ok` returns `Ok`
again and leaves both maps as the first call left them. -/
theorem teardown_of_gone_idempotent (r : Registry) (id : ContainerId) :
    (∀ env calledAt, ReportsGone (env.state 0) →
      (stopContainer cfg decode r id env calledAt).1 = .ok ()) ∧
    (∀ delete, ReportsGone delete → (removeContainer r id delete).1 = .ok ()) ∧
    (∀ env calledAt env' calledAt', (stopContainer cfg decode r id env calledAt).1 = .ok () →
      ReportsGone (env'.state 0) →
      stopContainer cfg decode (stopContainer cfg decode r id env calledAt).2 id env' calledAt' =
        (.ok (), (stopContainer cfg decode r id env calledAt).2)) ∧
    (∀ delete delete', (removeContainer r id delete).1 = .ok () → ReportsGone delete' →
      removeContainer (removeContainer r id delete).2 id delete' =
        (.ok (), (removeContainer r id delete).2)) := by
  refine ⟨fun env t h => by simp [stopContainer_of_reportsGone cfg decode r id h],
    fun d h => by simp [removeContainer_of_reportsGone r id h],
    fun env t env' t' hok h => ?_, fun d d' hok h => ?_⟩
  · rcases stopContainer_eq cfg decode r id env t with h' | ⟨e, h'⟩ <;> rw [h'] at hok ⊢
    · rw [stopContainer_of_reportsGone cfg decode _ id h, Registry.markStopped_markStopped]
    · cases hok
  · rcases removeContainer_eq r id d with h' | ⟨e, h'⟩ <;> rw [h'] at hok ⊢
    · rw [removeContainer_of_reportsGone _ id h, Registry.forget_of_none (by simp)]
    · cases hok

end

end YoukiRuntime
